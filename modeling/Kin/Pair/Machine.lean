import Kin.Pair.Sending

/-!
Two nodes that hold one session, as a machine. Each side creates envelopes with
`dispatch_session`, `respond_to_session` and `send_session_message`; they reach the other
side in the order in which they were sent, at any later time. Here is what one action does
to where the two nodes stand.
-/

namespace Kin.Pair

open Kin.Py Kin.Lib Kin.Schemas Kin.Session Kin.Storage Kin.Audit Kin.Node Kin.Transport

/-! ### The machine -/

/-- The databases of both sides, and the bodies in flight to each. -/
structure World where
  db : Side → Db
  inbox : Side → List Fields

inductive Action
  | dispatch (sender : Sender) (request : Request)
  | send (side : Side) (sender : Sender) (kind : MessageKind) (payload : Fields)
      (agentId : Option String)
  | respond (side : Side) (sender : Sender) (decision : ResponseDecision)
      (agentId reason : Option String)
  | deliver (side : Side) (ctx : IngestContext)
  /-- Whatever else a node does meanwhile, in other sessions. -/
  | elsewhere (side : Side) (db : Db)

def Action.result (p : Parties) (w : World) : Action → Option (Side × LocalResult)
  | .dispatch sender request => some (.initiator, dispatchSession sender (w.db .initiator) request)
  | .send side sender kind payload agentId =>
      some (side, sendSessionMessage sender (w.db side) p.sessionId kind payload agentId)
  | .respond side sender decision agentId reason =>
      some (side, respondToSession sender (w.db side) p.sessionId decision agentId reason)
  | .deliver _ _ => none
  | .elsewhere _ _ => none

/-- The result of an operation: what it puts on the network is in flight to the
other side. -/
def World.after (w : World) (side : Side) (result : LocalResult) : World where
  db := Function.update w.db side result.db
  inbox := Function.update w.inbox side.other
    (w.inbox side.other ++ result.sent.toList.map (·.envelope))

def World.delivered (w : World) (side : Side) (ctx : IngestContext) (body : Fields)
    (rest : List Fields) : World where
  db := Function.update w.db side (ingestEnvelope ctx (w.db side) body).db
  inbox := Function.update w.inbox side rest

namespace World

variable (w : World) (me : Side) (result : LocalResult) (ctx : IngestContext) (body : Fields)
  (rest : List Fields)

@[simp] theorem after_db_self : (w.after me result).db me = result.db := Function.update_self ..

@[simp] theorem after_db_other : (w.after me result).db me.other = w.db me.other :=
  Function.update_of_ne me.other_ne ..

@[simp] theorem after_inbox_self : (w.after me result).inbox me = w.inbox me :=
  Function.update_of_ne me.other_ne.symm ..

@[simp] theorem after_inbox_other : (w.after me result).inbox me.other =
    w.inbox me.other ++ result.sent.toList.map (·.envelope) :=
  Function.update_self ..

@[simp] theorem delivered_db_self :
    (w.delivered me ctx body rest).db me = (ingestEnvelope ctx (w.db me) body).db :=
  Function.update_self ..

@[simp] theorem delivered_db_other :
    (w.delivered me ctx body rest).db me.other = w.db me.other :=
  Function.update_of_ne me.other_ne ..

@[simp] theorem delivered_inbox_self : (w.delivered me ctx body rest).inbox me = rest :=
  Function.update_self ..

@[simp] theorem delivered_inbox_other :
    (w.delivered me ctx body rest).inbox me.other = w.inbox me.other :=
  Function.update_of_ne me.other_ne ..

end World

def step (p : Parties) (w : World) (action : Action) : World :=
  match action.result p w with
  | some (side, result) => w.after side result
  | none =>
      match action with
      | .deliver side ctx =>
          match w.inbox side with
          | [] => w
          | body :: rest => w.delivered side ctx body rest
      | .elsewhere side db => { w with db := Function.update w.db side db }
      | _ => w

/-- No node has the session, and nothing is in flight. -/
def Apart (p : Parties) (w : World) : Prop :=
  ∀ side, Absent p side (w.db side) ∧ w.inbox side = []

/-! ### Honest nodes -/

/-- A change of the database that leaves the session alone. -/
structure Elsewhere (p : Parties) (db db' : Db) : Prop where
  identity : db'.identity = db.identity
  log : LogInvariant db'
  session : db'.session? p.sessionId = db.session? p.sessionId
  events : db'.eventsOf p.sessionId = db.eventsOf p.sessionId

/-- Each side acts under its name and with its key, and knows the other's; the
session id of a dispatch is new, and the session does not expire. An offer is not
sent: the other node would write an envelope of its own for it. -/
def Honest (p : Parties) (w : World) : Action → Prop
  | .dispatch sender request => SendsFor p .initiator sender ∧ request.sessionId = p.sessionId ∧
      request.peerUsername = p.name .receiver ∧ (w.db .initiator).session? p.sessionId = none ∧
      ∀ endpoint body, (sender.http.post endpoint body).clientError = none
  | .send side sender kind _ _ => SendsFor p side sender ∧ Timely p (w.db side) sender.now ∧
      kind ≠ .artifactOffer
  | .respond side sender _ _ _ => SendsFor p side sender ∧ Timely p (w.db side) sender.now
  | .deliver side ctx => Knows p side.other ctx ∧ Timely p (w.db side) ctx.now
  | .elsewhere side db => Elsewhere p (w.db side) db

/-! ### Where the nodes stand -/

/-- A node with what is in flight to it: it holds the session, or it is the
receiver and the request is the first to arrive. -/
inductive Stands (p : Parties) (me : Side) (db : Db) (inbox : List Fields)
    (flight : List SessionEnvelope) (status : Status) (ledger : Ledger) : Prop
  | holds (h : Holds p me db status ledger)
      (hflight : List.Forall₂ (Genuine p me.other) inbox flight)
  | pending {request : Fields} {rest : List Fields} (hme : me = .receiver)
      (habsent : Absent p me db) (hstatus : status = .peerReview) (hasks : Asks p request ledger)
      (hinbox : inbox = request :: rest) (hflight : List.Forall₂ (Genuine p me.other) rest flight)

variable {p : Parties} {me : Side} {db : Db} {inbox : List Fields} {flight : List SessionEnvelope}
  {status : Status} {ledger : Ledger}

theorem Stands.identity (h : Stands p me db inbox flight status ledger) :
    db.myUsername = p.name me := by
  cases h with
  | holds h _ => exact h.identity
  | pending _ habsent _ _ _ _ => exact habsent.identity

theorem Stands.log (h : Stands p me db inbox flight status ledger) : LogInvariant db := by
  cases h with
  | holds h _ => exact h.log
  | pending _ habsent _ _ _ _ => exact habsent.log

/-- A node that changes elsewhere stands where it stood. -/
theorem Stands.of_elsewhere (h : Stands p me db inbox flight status ledger) {db' : Db}
    (helse : Elsewhere p db db') : Stands p me db' inbox flight status ledger := by
  cases h with
  | holds h hflight =>
      exact .holds (h.of_same helse.identity helse.log helse.session helse.events) hflight
  | pending hme habsent hstatus hasks hinbox hflight =>
      exact .pending hme (habsent.of_same helse.identity helse.log helse.session) hstatus hasks
        hinbox hflight

/-- More in flight to a node. -/
theorem Stands.append {body : Fields} {envelope : SessionEnvelope}
    (h : Stands p me db inbox flight status ledger) (hbody : Genuine p me.other body envelope) :
    Stands p me db (inbox ++ [body]) (flight ++ [envelope]) status ledger := by
  have happend : ∀ {bodies : List Fields}, List.Forall₂ (Genuine p me.other) bodies flight →
      List.Forall₂ (Genuine p me.other) (bodies ++ [body]) (flight ++ [envelope]) :=
    fun hflight => List.rel_append hflight (.cons hbody .nil)
  cases h with
  | holds h hflight => exact .holds h (happend hflight)
  | pending hme habsent hstatus hasks hinbox hflight =>
      exact .pending hme habsent hstatus hasks (by rw [hinbox]; rfl) (happend hflight)

/-- The statuses and the ledgers of both nodes, and the envelopes in flight to each. -/
structure Standing where
  status : Side → Status
  ledger : Side → Ledger
  flight : Side → List SessionEnvelope

def Standing.sent (x : Standing) (me : Side) (envelope : SessionEnvelope) : Standing where
  status := Function.update x.status me (movedStatus false envelope.kind (x.status me))
  ledger := Function.update x.ledger me ((x.ledger me).record (letterOf me envelope))
  flight := Function.update x.flight me.other (x.flight me.other ++ [envelope])

def Standing.taken (x : Standing) (me : Side) (envelope : SessionEnvelope)
    (rest : List SessionEnvelope) : Standing where
  status := Function.update x.status me (movedStatus true envelope.kind (x.status me))
  ledger := Function.update x.ledger me ((x.ledger me).record (letterOf me.other envelope))
  flight := Function.update x.flight me rest

def Standing.opened (status : Status) (ledger : Ledger) : Standing where
  status := fun | .initiator => status | .receiver => .peerReview
  ledger := fun _ => ledger
  flight := fun _ => []

def Standing.Passes (x : Standing) (p : Parties) (me author : Side) (envelope : SessionEnvelope) :
    Prop :=
  Pair.Passes p.name (x.status me) (x.ledger me) (letterOf author envelope)

namespace Standing

variable (x : Standing) (me : Side) (envelope : SessionEnvelope) (rest : List SessionEnvelope)

@[simp] theorem sent_status_self :
    (x.sent me envelope).status me = movedStatus false envelope.kind (x.status me) :=
  Function.update_self ..

@[simp] theorem sent_status_other : (x.sent me envelope).status me.other = x.status me.other :=
  Function.update_of_ne me.other_ne ..

@[simp] theorem sent_ledger_self :
    (x.sent me envelope).ledger me = (x.ledger me).record (letterOf me envelope) :=
  Function.update_self ..

@[simp] theorem sent_ledger_other : (x.sent me envelope).ledger me.other = x.ledger me.other :=
  Function.update_of_ne me.other_ne ..

@[simp] theorem sent_flight_self : (x.sent me envelope).flight me = x.flight me :=
  Function.update_of_ne me.other_ne.symm ..

@[simp] theorem sent_flight_other :
    (x.sent me envelope).flight me.other = x.flight me.other ++ [envelope] :=
  Function.update_self ..

@[simp] theorem taken_status_self :
    (x.taken me envelope rest).status me = movedStatus true envelope.kind (x.status me) :=
  Function.update_self ..

@[simp] theorem taken_status_other :
    (x.taken me envelope rest).status me.other = x.status me.other :=
  Function.update_of_ne me.other_ne ..

@[simp] theorem taken_ledger_self :
    (x.taken me envelope rest).ledger me = (x.ledger me).record (letterOf me.other envelope) :=
  Function.update_self ..

@[simp] theorem taken_ledger_other :
    (x.taken me envelope rest).ledger me.other = x.ledger me.other :=
  Function.update_of_ne me.other_ne ..

@[simp] theorem taken_flight_self : (x.taken me envelope rest).flight me = rest :=
  Function.update_self ..

@[simp] theorem taken_flight_other :
    (x.taken me envelope rest).flight me.other = x.flight me.other :=
  Function.update_of_ne me.other_ne ..

end Standing

/-- Both nodes stand so. -/
def Together (p : Parties) (w : World) (x : Standing) : Prop :=
  ∀ side, Stands p side (w.db side) (w.inbox side) (x.flight side) (x.status side) (x.ledger side)

/-- What an operation of a side puts on the network: an envelope that has passed at home. -/
structure Posts (p : Parties) (w : World) (x : Standing) (me : Side) (result : LocalResult)
    (envelope : SessionEnvelope) : Prop where
  sent : ∃ t, result.sent = some t ∧ Genuine p me t.envelope envelope
  plain : envelope.kind ≠ .artifactOffer
  stored : ((w.db me).session? p.sessionId).isSome = true
  passes : x.Passes p me me envelope

section Together

variable {w : World} {x : Standing} {result : LocalResult} {ctx : IngestContext}
  {body : Fields} {rest : List Fields}

theorem together_of_side (me : Side)
    (hme : Stands p me (w.db me) (w.inbox me) (x.flight me) (x.status me) (x.ledger me))
    (hother : Stands p me.other (w.db me.other) (w.inbox me.other) (x.flight me.other)
      (x.status me.other) (x.ledger me.other)) : Together p w x := by
  intro side
  by_cases hside : side = me
  · rw [hside]
    exact hme
  · rw [Side.eq_other hside]
    exact hother

/-- A node that has the session holds it. -/
theorem Together.holds (h : Together p w x)
    (hstored : ((w.db me).session? p.sessionId).isSome = true) :
    Holds p me (w.db me) (x.status me) (x.ledger me) ∧
      List.Forall₂ (Genuine p me.other) (w.inbox me) (x.flight me) := by
  cases h me with
  | holds h hflight => exact ⟨h, hflight⟩
  | pending _ habsent _ _ _ _ =>
      rw [habsent.session] at hstored
      cases hstored

/-- After an operation the nodes stand as before, or with the envelope it posts. -/
theorem Together.sends (h : Together p w x) (hsends : Sends p me (w.db me) result) :
    Together p (w.after me result) x ∨ ∃ envelope, Posts p w x me result envelope ∧
      Together p (w.after me result) (x.sent me envelope) := by
  have hinbox := w.after_inbox_other me result
  cases hsends with
  | silent hsent hholds habsent =>
      rw [hsent, Option.toList_none, List.map_nil, List.append_nil] at hinbox
      refine .inl (together_of_side me ?_ ?_)
      · rw [w.after_db_self, w.after_inbox_self]
        cases h me with
        | holds h hflight => exact .holds (hholds _ _ h) hflight
        | pending hme h hstatus hasks hbodies hflight =>
            exact .pending hme (habsent h) hstatus hasks hbodies hflight
      · rw [w.after_db_other, hinbox]
        exact h me.other
  | sent hsent hstored hgenuine htakes hplain hholds =>
      rename_i t ctx envelope
      rw [hsent, Option.toList_some, List.map_singleton] at hinbox
      obtain ⟨hme, hflight⟩ := h.holds hstored
      have hpasses := hme.passes htakes hgenuine.session hgenuine.actor
      have hafter := (hme.ingest htakes hgenuine.session hgenuine.actor (.inr rfl)).1
      rw [show decide (me ≠ me) = false by simp] at hafter
      refine .inr ⟨envelope, ⟨⟨t, hsent, hgenuine⟩, hplain, hstored, hpasses⟩,
        together_of_side me ?_ ?_⟩
      · rw [w.after_db_self, w.after_inbox_self, x.sent_flight_self, x.sent_status_self,
          x.sent_ledger_self]
        exact .holds (hholds _ _ hafter) hflight
      · rw [w.after_db_other, hinbox, x.sent_flight_other, x.sent_status_other,
          x.sent_ledger_other]
        exact (h me.other).append (by rw [Side.other_other]; exact hgenuine)

def Accepted (ctx : IngestContext) (db : Db) (body : Fields) : Prop :=
  (∃ envelope, Takes ctx db body envelope) ∧
    ∃ ack, (ingestEnvelope ctx db body).exit = .ok ack ∧ ack.status = .delivered

theorem Holds.passes_of_accepted {status : Status} {ledger : Ledger} {envelope : SessionEnvelope}
    {author : Side} (h : Holds p me db status ledger) (hgenuine : Genuine p author body envelope)
    (haccepted : Accepted ctx db body) :
    Passes p.name status ledger (letterOf author envelope) := by
  obtain ⟨⟨envelope', htakes⟩, -⟩ := haccepted
  obtain ⟨base, stored, state, participants, haccepts⟩ := id htakes
  have hvalid := validateEnvelope_of_verified haccepts.verified
  rw [hgenuine.valid] at hvalid
  cases hvalid
  exact h.passes htakes hgenuine.session hgenuine.actor

/-- The first body in flight to a node: the request, which is accepted, or an envelope that is
accepted where it passes. -/
theorem Together.delivery (h : Together p w x) (hknows : Knows p me.other ctx)
    (htimely : Timely p (w.db me) ctx.now) (hinbox : w.inbox me = body :: rest) :
    ((w.db me).session? p.sessionId = none ∧ Accepted ctx (w.db me) body ∧
      Together p (w.delivered me ctx body rest) x) ∨
    ∃ envelope envelopes, x.flight me = envelope :: envelopes ∧
      Genuine p me.other body envelope ∧ Holds p me (w.db me) (x.status me) (x.ledger me) ∧
      (x.Passes p me me.other envelope → envelope.kind ≠ .artifactOffer →
        Accepted ctx (w.db me) body ∧
          Together p (w.delivered me ctx body rest) (x.taken me envelope envelopes)) := by
  have hother := h me.other
  have hme := h me
  rw [hinbox] at hme
  cases hme with
  | holds h hflight =>
      obtain ⟨envelope, envelopes, hgenuine, hrest, heq⟩ := List.forall₂_cons_left_iff.mp hflight
      refine .inr ⟨envelope, envelopes, heq, hgenuine, h, fun hpasses hplain => ?_⟩
      have htakes := h.takes hgenuine hknows htimely hpasses
      obtain ⟨hholds, hack⟩ := h.ingest htakes hgenuine.session hgenuine.actor (.inl hplain)
      rw [show decide (me.other ≠ me) = true by simp] at hholds
      refine ⟨⟨⟨envelope, htakes⟩, hack⟩, together_of_side me ?_ ?_⟩
      · rw [w.delivered_db_self, w.delivered_inbox_self, x.taken_flight_self,
          x.taken_status_self, x.taken_ledger_self]
        exact .holds hholds hrest
      · rw [w.delivered_db_other, w.delivered_inbox_other, x.taken_flight_other,
          x.taken_status_other, x.taken_ledger_other]
        exact hother
  | pending hreceiver habsent hstatus hasks hbodies hflight =>
      subst hreceiver
      cases hbodies
      obtain ⟨htakes, hholds, hack⟩ := habsent.receives hknows hasks
      refine .inl ⟨habsent.session, ⟨htakes, hack⟩, together_of_side .receiver ?_ ?_⟩
      · rw [World.delivered_db_self, World.delivered_inbox_self]
        exact .holds (hstatus ▸ hholds) hflight
      · rw [World.delivered_db_other, World.delivered_inbox_other]
        exact hother

theorem Apart.dispatch {sender : Sender} {request : Request} (h : Apart p w)
    (hhonest : Honest p w (.dispatch sender request)) :
    Apart p (w.after .initiator (dispatchSession sender (w.db .initiator) request)) ∨
      ∃ s ledger, awaiting s ∧
        Together p (w.after .initiator (dispatchSession sender (w.db .initiator) request))
          (.opened s ledger) := by
  obtain ⟨hsender, hsid, hpeer, -, hanswer⟩ := hhonest
  obtain ⟨hinitiator, hempty⟩ := h .initiator
  obtain ⟨hreceiver, hempty'⟩ := h .receiver
  rcases hinitiator.dispatch hsender hsid hpeer hanswer with
    ⟨hsent, habsent⟩ | ⟨t, s, ledger, hsent, hs, hasks, hholds⟩
  · left
    intro side
    cases side with
    | initiator => exact ⟨habsent, hempty⟩
    | receiver => exact ⟨hreceiver, by simp [World.after, Side.other, hsent, hempty']⟩
  · right
    have hrequest : (w.after .initiator
        (dispatchSession sender (w.db .initiator) request)).inbox .receiver = [t.envelope] := by
      simp [World.after, Side.other, hsent, hempty']
    refine ⟨s, ledger, hs, together_of_side .initiator (.holds hholds ?_)
      (.pending rfl hreceiver rfl hasks hrequest .nil)⟩
    rw [show (w.after .initiator _).inbox .initiator = w.inbox .initiator from rfl, hempty]
    exact .nil

end Together

/-! ### The joint invariant -/

/-- Either no node has the session, or both stand as the relation says. -/
def Joint (p : Parties) (G : Standing → Prop) (w : World) : Prop :=
  Apart p w ∨ ∃ x, G x ∧ Together p w x

section Joint

variable {w : World} {result : LocalResult} {ctx : IngestContext} {body : Fields}
  {rest : List Fields} {G : Standing → Prop}

theorem Joint.identity (h : Joint p G w) (side : Side) : (w.db side).myUsername = p.name side := by
  rcases h with hapart | ⟨_, -, hstands⟩
  · exact (hapart side).1.identity
  · exact (hstands side).identity

theorem Joint.log (h : Joint p G w) (side : Side) : LogInvariant (w.db side) := by
  rcases h with hapart | ⟨_, -, hstands⟩
  · exact (hapart side).1.log
  · exact (hstands side).log

/-- An operation keeps the relation if what it posts does. -/
theorem Joint.sends (hjoint : Joint p G w) (hsends : Sends p me (w.db me) result)
    (hposts : ∀ x envelope, G x → Together p w x → Posts p w x me result envelope →
      G (x.sent me envelope)) : Joint p G (w.after me result) := by
  rcases hjoint with hapart | ⟨x, hx, hstands⟩
  · left
    cases hsends with
    | sent _ hstored _ _ _ _ =>
        rw [(hapart me).1.session] at hstored
        cases hstored
    | silent hsent _ habsent =>
        intro side
        by_cases hside : side = me
        · subst hside
          rw [w.after_db_self, w.after_inbox_self]
          exact ⟨habsent (hapart side).1, (hapart side).2⟩
        · rw [Side.eq_other hside, w.after_db_other, w.after_inbox_other, hsent,
            Option.toList_none, List.map_nil, List.append_nil]
          exact hapart me.other
  · rcases hstands.sends hsends with hsame | ⟨envelope, hposted, hafter⟩
    · exact .inr ⟨x, hx, hsame⟩
    · exact .inr ⟨_, hposts x envelope hx hstands hposted, hafter⟩

/-- A delivery is accepted, and keeps the relation, if the envelope passes and the relation
holds after it. -/
theorem Joint.delivery (hjoint : Joint p G w) (hknows : Knows p me.other ctx)
    (htimely : Timely p (w.db me) ctx.now) (hinbox : w.inbox me = body :: rest)
    (htaken : ∀ x envelope envelopes, G x → x.flight me = envelope :: envelopes →
      Genuine p me.other body envelope → Holds p me (w.db me) (x.status me) (x.ledger me) →
      x.Passes p me me.other envelope ∧ envelope.kind ≠ .artifactOffer ∧
        G (x.taken me envelope envelopes)) :
    Accepted ctx (w.db me) body ∧ Joint p G (w.delivered me ctx body rest) := by
  rcases hjoint with hapart | ⟨x, hx, hstands⟩
  · rw [(hapart me).2] at hinbox
    cases hinbox
  rcases hstands.delivery hknows htimely hinbox with
    ⟨-, haccepted, hafter⟩ | ⟨envelope, envelopes, hflight, hgenuine, hholds, hafter⟩
  · exact ⟨haccepted, .inr ⟨x, hx, hafter⟩⟩
  · obtain ⟨hpasses, hplain, hkept⟩ := htaken x envelope envelopes hx hflight hgenuine hholds
    obtain ⟨haccepted, hafter⟩ := hafter hpasses hplain
    exact ⟨haccepted, .inr ⟨_, hkept, hafter⟩⟩

/-- A dispatch keeps the relation if it holds of a session just opened. -/
theorem Joint.dispatch {sender : Sender} {request : Request} (hjoint : Joint p G w)
    (hhonest : Honest p w (.dispatch sender request))
    (hopened : ∀ s ledger, awaiting s → G (.opened s ledger)) :
    Joint p G (w.after .initiator (dispatchSession sender (w.db .initiator) request)) := by
  rcases hjoint with hapart | ⟨x, -, hstands⟩
  · rcases hapart.dispatch hhonest with happart | ⟨s, ledger, hs, hafter⟩
    · exact .inl happart
    · exact .inr ⟨_, hopened s ledger hs, hafter⟩
  · cases hstands .initiator with
    | holds h _ =>
        obtain ⟨row, hrow, -⟩ := h.row
        rw [hhonest.2.2.2.1] at hrow
        cases hrow
    | pending hreceiver _ _ _ _ _ => cases hreceiver

/-- A node that changes in other sessions stays with its peer. -/
theorem Joint.elsewhere {db : Db} (hjoint : Joint p G w) (helse : Elsewhere p (w.db me) db) :
    Joint p G { w with db := Function.update w.db me db } := by
  rcases hjoint with hapart | ⟨x, hx, hstands⟩
  · left
    intro side
    by_cases hside : side = me
    · subst hside
      refine ⟨?_, (hapart side).2⟩
      simp only [Function.update_self]
      exact (hapart side).1.of_same helse.identity helse.log helse.session
    · simp only [Function.update_of_ne hside]
      exact hapart side
  · refine .inr ⟨x, hx, fun side => ?_⟩
    by_cases hside : side = me
    · subst hside
      simp only [Function.update_self]
      exact (hstands side).of_elsewhere helse
    · simp only [Function.update_of_ne hside]
      exact hstands side

end Joint

/-! ### What is observed -/

def DeliveryAccepted (w : World) : Action → Prop
  | .deliver side ctx => ∀ body rest, w.inbox side = body :: rest →
      Accepted ctx (w.db side) body
  | _ => True

def InStatus (p : Parties) (w : World) (side : Side) (status : Status) : Prop :=
  ∃ row, (w.db side).session? p.sessionId = some row ∧ row.status = status

/-- An action of honest nodes keeps the relation, if what they post and what they take in
does; each delivery is accepted then. -/
theorem Joint.step {w : World} {G : Standing → Prop} {action : Action} (hjoint : Joint p G w)
    (hhonest : Honest p w action) (hopened : ∀ s ledger, awaiting s → G (.opened s ledger))
    (hposts : ∀ me result, action.result p w = some (me, result) →
      ∀ x envelope, G x → Together p w x → Posts p w x me result envelope → G (x.sent me envelope))
    (htaken : ∀ me ctx body rest, action = .deliver me ctx → w.inbox me = body :: rest →
      ∀ x envelope envelopes, G x → x.flight me = envelope :: envelopes →
        Genuine p me.other body envelope → Holds p me (w.db me) (x.status me) (x.ledger me) →
        x.Passes p me me.other envelope ∧ envelope.kind ≠ .artifactOffer ∧
          G (x.taken me envelope envelopes)) :
    DeliveryAccepted w action ∧ Joint p G (step p w action) := by
  cases action with
  | dispatch sender request => exact ⟨trivial, hjoint.dispatch hhonest hopened⟩
  | send side sender kind payload agentId =>
      obtain ⟨hsender, htimely, hkind⟩ := hhonest
      exact ⟨trivial, hjoint.sends (sends_message hsender (hjoint.identity side)
        (hjoint.log side) htimely hkind payload agentId) (hposts side _ rfl)⟩
  | respond side sender decision agentId reason =>
      obtain ⟨hsender, htimely⟩ := hhonest
      exact ⟨trivial, hjoint.sends (sends_response hsender (hjoint.identity side)
        (hjoint.log side) htimely decision agentId reason) (hposts side _ rfl)⟩
  | deliver side ctx =>
      obtain ⟨hknows, htimely⟩ := hhonest
      refine ⟨fun body rest hinbox => ?_, ?_⟩
      · exact (hjoint.delivery hknows htimely hinbox (htaken side ctx body rest rfl hinbox)).1
      · simp only [Pair.step, Action.result]
        split
        · exact hjoint
        · rename_i body rest hinbox
          exact (hjoint.delivery hknows htimely hinbox (htaken side ctx body rest rfl hinbox)).2
  | elsewhere side db => exact ⟨trivial, hjoint.elsewhere hhonest⟩

end Kin.Pair
