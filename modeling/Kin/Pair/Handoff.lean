import Kin.Node.AgentColumn
import Kin.Pair.Agreement

/-!
Handoffs between two nodes. Each side does whatever a node does, and what it puts
on the network reaches the other side in order. `tag_in_handoff` writes the new
agent into the owner's own database; the `PARTICIPANT_CHANGED` that announces it is
accepted by the peer and leaves the peer's column for the owner as it was.
-/

namespace Kin.Pair.Handoff

open Kin.Py Kin.Lib Kin.Schemas Kin.Session Kin.Storage Kin.Audit Kin.Node Kin.Transport

/-! ### The machine -/

def sentBy (db : Db) : Activity → List Fields
  | .operation (.ingest ctx raw) => (ingestEnvelope ctx db raw).accept.toList.map (·.envelope)
  | .operation (.pause sender sid reason) =>
      (pauseSession sender db sid reason).sent.toList.map (·.envelope)
  | .operation (.resume sender sid reason) =>
      (resumeSession sender db sid reason).sent.toList.map (·.envelope)
  | .operation _ => []
  | .call c => (perform ⟨db, []⟩ c).sent.map (·.envelope)
  | .retryOutboundQueue sweep => (retryOutboundQueue sweep db).offers.map (·.row.envelope)
  | .tagIn sender sid args => (tagInHandoff sender db sid args).sent.toList.map (·.envelope)

inductive Action
  | act (side : Side) (activity : Activity)
  | deliver (side : Side) (ctx : IngestContext)

/-- An activity of a side: what it sends is in flight to the other one. -/
def act (w : World) (side : Side) (activity : Activity) : World where
  db := Function.update w.db side (activity.step (w.db side))
  inbox := Function.update w.inbox side.other (w.inbox side.other ++ sentBy (w.db side) activity)

def step (w : World) : Action → World
  | .act side activity => act w side activity
  | .deliver side ctx =>
      match w.inbox side with
      | [] => w
      | body :: rest =>
          act { w with inbox := Function.update w.inbox side rest } side
            (.operation (.ingest ctx body))

/-- Nobody replaces the other owner's agent. -/
def Honest (p : Parties) : Action → Prop
  | .act side activity => ∀ name, activity.hands name → name = p.name side
  | .deliver _ _ => True

/-- Two nodes without sessions, and nothing in flight. -/
def fresh (p : Parties) (contacts : Side → List ContactRow) (agents : Side → List AgentRow) :
    World where
  db side := Db.fresh (some (p.name side)) (contacts side) (agents side)
  inbox _ := []

/-! ### One side of a run -/

section Side

variable {p : Parties} {me : Side} {w : World} {action : Action}

/-- A step leaves a side's database alone or is one of its activities. -/
theorem step_db (me : Side) (w : World) (action : Action) (hhonest : Honest p action) :
    (step w action).db me = w.db me ∨
      ∃ activity : Activity, (∀ name, activity.hands name → name = p.name me) ∧
        (step w action).db me = activity.step (w.db me) := by
  have hact : ∀ (w : World) (side : Side) (activity : Activity),
      (∀ name, activity.hands name → name = p.name side) →
      (act w side activity).db me = w.db me ∨
        ∃ activity' : Activity, (∀ name, activity'.hands name → name = p.name me) ∧
          (act w side activity).db me = activity'.step (w.db me) := by
    intro w side activity hhands
    by_cases hside : me = side
    · subst hside
      exact .inr ⟨activity, hhands, Function.update_self ..⟩
    · exact .inl (Function.update_of_ne hside ..)
  cases action with
  | act side activity => exact hact w side activity hhonest
  | deliver side ctx =>
      simp only [step]
      cases w.inbox side with
      | nil => exact .inl rfl
      | cons body rest => exact hact _ side (.operation (.ingest ctx body)) fun _ h => False.elim h

theorem ownedBy_run {actions : List Action} (hhonest : ∀ action ∈ actions, Honest p action)
    (h : OwnedBy (p.name me) (w.db me)) : OwnedBy (p.name me) ((run step w actions).db me) := by
  refine run_of_along (I := fun w => OwnedBy (p.name me) (w.db me)) (fun w action h hhonest => ?_) h
    (along_of_mem w hhonest)
  rcases step_db me w action hhonest with heq | ⟨activity, -, heq⟩
  · rw [heq]
    exact h
  · rw [heq]
    exact h.of_activity (p.named me) activity

theorem recorded_run {sid : String} {db : Db} {row : SessionRow} {actions : List Action}
    (hactor : p.name me.other = row.initiatorUsername ∨ p.name me.other = row.receiverUsername)
    (hhonest : ∀ action ∈ actions, Honest p action)
    (h : Recorded (p.name me) (p.name me.other) sid db row (w.db me)) :
    Recorded (p.name me) (p.name me.other) sid db row ((run step w actions).db me) := by
  refine run_of_along (I := fun w => Recorded (p.name me) (p.name me.other) sid db row (w.db me))
    (fun w action h hhonest => ?_) h (along_of_mem w hhonest)
  have hother : p.name me.other ≠ p.name me := fun h => Side.other_ne me (p.name_inj h)
  rcases step_db me w action hhonest with heq | ⟨activity, hhands, heq⟩
  · rw [heq]
    exact h
  · rw [heq]
    exact h.of_activity (p.named me) hother hactor activity hhands

end Side

/-! ### The result -/

/-- The other owner's `PARTICIPANT_CHANGED` is the next to arrive, and is accepted. -/
structure Announced (p : Parties) (me : Side) (w : World) (ctx : IngestContext)
    (change : SessionEnvelope) (replacement : String) : Prop where
  accepted : ∃ body rest, w.inbox me = body :: rest ∧ validateEnvelope body = some change ∧
    Delivered ctx (w.db me) body
  kind : change.kind = .participantChanged
  actor : change.actorUsername = p.name me.other
  names : change.payload.get? "replacement_agent_id" = some (.text replacement)

structure Arrives (p : Parties) (me : Side) (w : World) (ctx : IngestContext) (body : Fields)
    (envelope : SessionEnvelope) : Prop where
  head : ∃ rest, w.inbox me = body :: rest
  signed : WellSigned ctx body envelope
  actor : envelope.actorUsername = p.name me.other

/-- In every run of two nodes, after a handoff of the other owner was accepted, and
however many there are on either side: an envelope of that owner under the
replacement passes the checks of its agent exactly if it is recognized by the row
the node has then, and unless an acceptance was stored since, the agent on record
there is the one from before the handoff. -/
theorem replacement_passes_iff (p : Parties) (contacts : Side → List ContactRow)
    (agents : Side → List AgentRow) (earlier later : List Action) (me : Side)
    (ctx ctx' : IngestContext) (change envelope : SessionEnvelope) (body : Fields) :
    let before := run step (fresh p contacts agents) earlier
    let after := run step before (.deliver me ctx :: later)
    (∀ action ∈ earlier ++ later, Honest p action) →
      Announced p me before ctx change envelope.actorAgentId →
      Arrives p me after ctx' body envelope → envelope.sessionId = change.sessionId →
      ∃ row row', (before.db me).session? change.sessionId = some row ∧
        (after.db me).session? change.sessionId = some row' ∧
        (acceptances (after.db me) change.sessionId = acceptances (before.db me) change.sessionId →
          agentColumnOf row' (p.name me.other) = agentColumnOf row (p.name me.other)) ∧
        (¬AgentRefused ctx' (after.db me) body ↔
          recognized ctx'.now (after.db me) row' envelope = true) := by
  intro before after hhonest hannounced harrives hsid
  have hhonest' : ∀ action ∈ .deliver me ctx :: later, Honest p action := by
    intro action hmem
    rcases List.mem_cons.mp hmem with rfl | hlater
    · trivial
    · exact hhonest action (List.mem_append_right _ hlater)
  have howned : OwnedBy (p.name me) (before.db me) :=
    ownedBy_run (fun action h => hhonest action (List.mem_append_left _ h)) (ownedBy_fresh ..)
  obtain ⟨change', rest, hinbox, hvalid, hdelivered⟩ := hannounced.accepted
  obtain ⟨envelope', -, hver, -⟩ := stored_of_delivered hdelivered
  have hsame : envelope' = change :=
    Option.some.inj ((validateEnvelope_of_verified hver).symm.trans hvalid)
  subst hsame
  -- the session was there before the change
  obtain ⟨row, hrow⟩ : ∃ row, (before.db me).session? envelope'.sessionId = some row := by
    refine Option.ne_none_iff_exists'.mp fun hnone => ?_
    have hkind := verified_isTaskRequest hver hnone
    rw [hannounced.kind] at hkind
    cases hkind
  have hstep : (step before (.deliver me ctx)).db me =
      (ingestEnvelope ctx (before.db me) change').db := by
    simp only [step, hinbox]
    exact Function.update_self ..
  have hactor : p.name me.other = row.initiatorUsername ∨ p.name me.other = row.receiverUsername := by
    have hafter : OwnedBy (p.name me) (ingestEnvelope ctx (before.db me) change').db :=
      howned.of_activity (p.named me) (.operation (.ingest ctx change'))
    obtain ⟨row₁, hrow₁, hactor⟩ := hafter.member_of_delivered hdelivered hvalid
    obtain ⟨row₂, hrow₂, hterms⟩ := sameTerms_of_activity (.operation (.ingest ctx change')) hrow
    cases hrow₁.symm.trans hrow₂
    rw [hterms.initiatorUsername, hterms.receiverUsername, hannounced.actor] at hactor
    exact hactor
  have hrecorded : Recorded (p.name me) (p.name me.other) envelope'.sessionId (before.db me) row
      (after.db me) := recorded_run hactor hhonest' (.refl howned hrow)
  obtain ⟨row', hrow', hterms, hcolumn⟩ := hrecorded.column
  refine ⟨row, row', hrow, hrow', hcolumn, ?_⟩
  rw [← hterms.initiatorUsername, ← hterms.receiverUsername, ← harrives.actor] at hactor
  rw [← hsid] at hrow'
  refine not_agentRefused_iff harrives.signed hrow' ⟨?_, hactor⟩ ?_
  · rw [harrives.actor]
    exact p.named me.other
  · -- one of the two is this owner, the other one is not
    have hother : p.name me.other ≠ p.name me := fun h => Side.other_ne me (p.name_inj h)
    intro hboth
    rw [hboth, or_self, harrives.actor] at hactor
    rcases hrecorded.owned.party _ _ hrow' with hmy | hmy
    · exact hother (hactor.trans (hboth.symm.trans hmy))
    · exact hother (hactor.trans hmy)

namespace Sample

open Kin.Transport.Sample Kin.Pair.Sample

def agents : Side → List AgentRow
  | .initiator => [⟨"scout", true, "available", none⟩, ⟨"planner", true, "available", none⟩]
  | .receiver => [⟨"bot", true, "available", none⟩, ⟨"helper", true, "available", none⟩]

abbrev start : World := fresh parties (fun _ => []) agents

/-- `alice`'s request for `bot` has reached `bob`. -/
def asked : List Action :=
  [.act .initiator (.call (.dispatch (sender "alice")
      { sessionId := "s1", peerUsername := "bob", senderAgentId := "scout",
        receiverAgentId := "bot", mode := .ask, goal := "hello" })),
   .deliver .receiver context]

/-- `bob` accepts, and `alice` hands over to `planner`. -/
def replaced : List Action :=
  asked ++ [.act .receiver (.call (.respond (sender "bob") "s1" .accept (some "bot") none)),
    .deliver .initiator context,
    .act .initiator (.tagIn { sender "alice" with queueId := "q2" } "s1"
      ⟨"planner", some "alice", none⟩)]

def underPlanner : List Action :=
  [.act .initiator (.call (.send { sender "alice" with queueId := "q3" } "s1" .proposal
    [(.text "text", .text "first")] (some "planner")))]

/-- `bob` hands over to `helper` before he accepts, and accepts for `helper`. -/
def replacedFirst : List Action :=
  asked ++ [.act .receiver (.tagIn (sender "bob") "s1" ⟨"helper", some "bob", none⟩)]

def underHelper : List Action :=
  [.act .receiver (.call (.respond { sender "bob" with queueId := "q2" } "s1" .accept
      (some "helper") none)),
    .deliver .initiator context,
    .act .receiver (.call (.send { sender "bob" with queueId := "q3" } "s1" .proposal
      [(.text "text", .text "first")] (some "helper")))]

/-- The next body to arrive at a side, and what it is read as, pass a test. -/
def next (w : World) (me : Side) (test : Fields → SessionEnvelope → Bool) : Bool :=
  (w.inbox me).head?.any fun body => (validateEnvelope body).any fun envelope =>
    envelope.sessionId == "s1" && envelope.actorUsername == parties.name me.other &&
      test body envelope

theorem next_eq_true {w : World} {me : Side} {test : Fields → SessionEnvelope → Bool}
    (h : next w me test = true) :
    ∃ body rest envelope, w.inbox me = body :: rest ∧ validateEnvelope body = some envelope ∧
      envelope.sessionId = "s1" ∧ envelope.actorUsername = parties.name me.other ∧
      test body envelope = true := by
  obtain ⟨body, hbody, h⟩ := (Option.any_eq_true _ _).mp h
  obtain ⟨envelope, hvalid, h⟩ := (Option.any_eq_true _ _).mp h
  obtain ⟨rest, hrest⟩ := List.head?_eq_some_iff.mp hbody
  simp only [Bool.and_eq_true, beq_iff_eq] at h
  exact ⟨body, rest, envelope, hrest, hvalid, h.1.1, h.1.2, h.2⟩

/-- An accepted change to `replacement`. -/
def announces (db : Db) (replacement : String) (body : Fields) (change : SessionEnvelope) : Bool :=
  change.kind == .participantChanged &&
    (change.payload.get? "replacement_agent_id").bind asText == some replacement &&
    decide (Delivered context db body)

theorem announced_of_next {w : World} {me : Side} {replacement : String}
    (h : next w me (announces (w.db me) replacement) = true) :
    ∃ change, change.sessionId = "s1" ∧ Announced parties me w context change replacement := by
  obtain ⟨body, rest, change, hinbox, hvalid, hsid, hactor, h⟩ := next_eq_true h
  simp only [announces, Bool.and_eq_true, beq_iff_eq, decide_eq_true_eq,
    Option.bind_eq_some_iff] at h
  obtain ⟨⟨hkind, v, hv, htext⟩, hdelivered⟩ := h
  refine ⟨change, hsid, ⟨body, rest, hinbox, hvalid, hdelivered⟩, hkind, hactor, ?_⟩
  rw [hv, asText_eq_some htext]

def wellSigned (agentId : String) (body : Fields) (envelope : SessionEnvelope) : Bool :=
  envelope.actorAgentId == agentId &&
    computeContentHash externals envelope.payload == some envelope.contentHash &&
    envelope.signature.getD "" != "" &&
    verifyEnvelopeSignature externals body envelope.actorUsername

theorem arrives_of_next {w : World} {me : Side} {agentId : String}
    {test : Fields → SessionEnvelope → Bool}
    (h : next w me (fun body envelope => wellSigned agentId body envelope && test body envelope) =
      true) :
    ∃ body envelope, Arrives parties me w context body envelope ∧ envelope.sessionId = "s1" ∧
      envelope.actorAgentId = agentId ∧ test body envelope = true := by
  obtain ⟨body, rest, envelope, hinbox, hvalid, hsid, hactor, h⟩ := next_eq_true h
  simp only [wellSigned, Bool.and_eq_true, beq_iff_eq, bne_iff_ne] at h
  obtain ⟨⟨⟨⟨hagent, hhash⟩, hsigned⟩, hverifies⟩, htest⟩ := h
  exact ⟨body, envelope, ⟨⟨rest, hinbox⟩, ⟨hvalid, hhash, hsigned, _, rfl, hverifies⟩, hactor⟩, hsid,
    hagent, htest⟩

theorem recognized_of_next {w : World} {me : Side} {agentId : String}
    (h : next w me (fun body envelope => wellSigned agentId body envelope &&
      ((w.db me).session? "s1").all fun row => recognized context.now (w.db me) row envelope) =
        true) :
    ∃ body envelope, Arrives parties me w context body envelope ∧ envelope.sessionId = "s1" ∧
      envelope.actorAgentId = agentId ∧ ∀ row, (w.db me).session? "s1" = some row →
        recognized context.now (w.db me) row envelope = true := by
  obtain ⟨body, envelope, harrives, hsid, hagent, htest⟩ := arrives_of_next h
  refine ⟨body, envelope, harrives, hsid, hagent, fun row hrow => ?_⟩
  rw [hrow] at htest
  exact htest

end Sample

-- the two runs are evaluated by the kernel only
seal run

/-- `bob` has accepted `alice`'s handoff to `planner` and refuses the envelope of
`planner` that follows. -/
theorem replacement_refused :
    let before := run step Sample.start Sample.replaced
    let after := run step before (.deliver .receiver Transport.Sample.context :: Sample.underPlanner)
    (∀ action ∈ Sample.replaced ++ Sample.underPlanner, Honest Pair.Sample.parties action) ∧
      ∃ change body envelope,
        Announced Pair.Sample.parties .receiver before Transport.Sample.context change "planner" ∧
        Arrives Pair.Sample.parties .receiver after Transport.Sample.context body envelope ∧
        envelope.sessionId = change.sessionId ∧ envelope.actorAgentId = "planner" ∧
        AgentRefused Transport.Sample.context (after.db .receiver) body := by
  intro before after
  refine ⟨?_, ?_⟩
  · intro action hmem
    simp only [Sample.replaced, Sample.asked, Sample.underPlanner, List.cons_append,
      List.nil_append, List.mem_cons, List.not_mem_nil, or_false] at hmem
    rcases hmem with rfl | rfl | rfl | rfl | rfl | rfl <;>
      first | trivial | exact fun _ h => False.elim h | exact fun _ h => h
  · have hfacts : Sample.next before .receiver
          (Sample.announces (before.db .receiver) "planner") = true ∧
        Sample.next after .receiver (fun body envelope =>
          Sample.wellSigned "planner" body envelope &&
            decide (AgentRefused Transport.Sample.context (after.db .receiver) body)) = true := by
      decide +kernel
    obtain ⟨change, hsid, hannounced⟩ := Sample.announced_of_next hfacts.1
    obtain ⟨body, envelope, harrives, hsid', hagent, hrefused⟩ := Sample.arrives_of_next hfacts.2
    exact ⟨change, body, envelope, hannounced, harrives, hsid'.trans hsid.symm, hagent,
      of_decide_eq_true hrefused⟩

/-- `alice` takes the envelopes of `helper` after `bob` has accepted for him. -/
theorem replacement_accepted :
    let before := run step Sample.start Sample.replacedFirst
    let after := run step before (.deliver .initiator Transport.Sample.context :: Sample.underHelper)
    ∃ change body envelope,
      Announced Pair.Sample.parties .initiator before Transport.Sample.context change "helper" ∧
      Arrives Pair.Sample.parties .initiator after Transport.Sample.context body envelope ∧
      envelope.actorAgentId = "helper" ∧
      ¬AgentRefused Transport.Sample.context (after.db .initiator) body := by
  intro before after
  have hhonest : ∀ action ∈ Sample.replacedFirst ++ Sample.underHelper,
      Honest Pair.Sample.parties action := by
    intro action hmem
    simp only [Sample.replacedFirst, Sample.asked, Sample.underHelper, List.cons_append,
      List.nil_append, List.mem_cons, List.not_mem_nil, or_false] at hmem
    rcases hmem with rfl | rfl | rfl | rfl | rfl | rfl <;>
      first | trivial | exact fun _ h => False.elim h | exact fun _ h => h
  have hfacts : Sample.next before .initiator
        (Sample.announces (before.db .initiator) "helper") = true ∧
      Sample.next after .initiator (fun body envelope =>
        Sample.wellSigned "helper" body envelope &&
          ((after.db .initiator).session? "s1").all fun row =>
            recognized Transport.Sample.context.now (after.db .initiator) row envelope) = true := by
    decide +kernel
  obtain ⟨change, hsid, hannounced⟩ := Sample.announced_of_next hfacts.1
  obtain ⟨body, envelope, harrives, hsid', hagent, hrecognized⟩ :=
    Sample.recognized_of_next hfacts.2
  refine ⟨change, body, envelope, hannounced, harrives, hagent, ?_⟩
  rw [← hagent] at hannounced
  obtain ⟨row, row', -, hrow', -, hiff⟩ := replacement_passes_iff Pair.Sample.parties (fun _ => [])
    Sample.agents Sample.replacedFirst Sample.underHelper .initiator Transport.Sample.context
    Transport.Sample.context change envelope body hhonest hannounced harrives
    (hsid'.trans hsid.symm)
  rw [hsid] at hrow'
  exact hiff.mpr (hrecognized row' hrow')

end Kin.Pair.Handoff
