import Kin.Pair.Machine

/-!
The nodes resolve no conflict between envelopes that cross. Here is an order of sending that
avoids them: a run agrees if no side sends while something that does not go with it is in
flight.
-/

namespace Kin.Pair

open Kin.Py Kin.Lib Kin.Schemas Kin.Session Kin.Storage Kin.Audit Kin.Node Kin.Transport

/-! ### Envelopes that do not cross -/

/-- The status at a node; a receiver that has not got the request yet will be in
`peer_review`. -/
def statusOf (p : Parties) (db : Db) : Status :=
  ((db.session? p.sessionId).map (·.status)).getD .peerReview

def kindsIn (bodies : List Fields) : List MessageKind :=
  bodies.filterMap fun body => (validateEnvelope body).map (·.kind)

def turnsOf (p : Parties) (db : Db) : Nat := (db.eventsOf p.sessionId).countP countsAsTurn

def turnLimitAt (p : Parties) (db : Db) : Nat :=
  match db.session? p.sessionId with
  | some row => if row.turnLimit = 0 then 12 else row.turnLimit
  | none => 0

/-- The envelope goes with what is in flight, and there are turns for both. -/
structure InOrder (p : Parties) (w : World) (side : Side) (kind : MessageKind) : Prop where
  turn : InTurn side (statusOf p (w.db side)) (statusOf p (w.db side.other))
    (kindsIn (w.inbox side)) (kindsIn (w.inbox side.other)) kind
  room : turnConsuming kind = true → turnsOf p (w.db side) +
    (kindsIn (w.inbox side)).countP turnConsuming < turnLimitAt p (w.db side)

instance (p : Parties) (w : World) (side : Side) (kind : MessageKind) :
    Decidable (InOrder p w side kind) :=
  decidable_of_iff (_ ∧ _) ⟨fun h => ⟨h.1, h.2⟩, fun h => ⟨h.turn, h.room⟩⟩

def InOrderResult (p : Parties) (w : World) (side : Side) (result : LocalResult) : Prop :=
  ∀ t ∈ result.sent, ∀ envelope ∈ validateEnvelope t.envelope, InOrder p w side envelope.kind

instance (p : Parties) (w : World) (side : Side) (result : LocalResult) :
    Decidable (InOrderResult p w side result) :=
  inferInstanceAs (Decidable (∀ t ∈ result.sent, ∀ envelope ∈ validateEnvelope t.envelope,
    InOrder p w side envelope.kind))

def Ordered (p : Parties) (w : World) (action : Action) : Prop :=
  match action, action.result p w with
  | .dispatch _ _, _ => True
  | _, some (side, result) => InOrderResult p w side result
  | _, none => True

/-! ### What both nodes have in common -/

def kindsTo (flight : Side → List SessionEnvelope) (side : Side) : List MessageKind :=
  (flight side).map (·.kind)

def lettersTo (flight : Side → List SessionEnvelope) (side : Side) : List Letter :=
  (flight side).map (letterOf side.other)

structure Meets (p : Parties) (x : Standing) : Prop where
  accord : Accord (x.status .initiator) (x.status .receiver) (kindsTo x.flight .initiator)
    (kindsTo x.flight .receiver)
  inStep : ∀ me : Side, InStep p.name me (x.ledger me) (x.ledger me.other) (lettersTo x.flight me)
    (lettersTo x.flight me.other)
  plain : ∀ side, ∀ envelope ∈ x.flight side, envelope.kind ≠ .artifactOffer

section Meets

variable {p : Parties} {me : Side} {x : Standing} {envelope : SessionEnvelope}

/-- It is enough to look from one side. -/
theorem Meets.of_side (me : Side)
    (accord : Accord (x.status .initiator) (x.status .receiver) (kindsTo x.flight .initiator)
      (kindsTo x.flight .receiver))
    (inStep : InStep p.name me (x.ledger me) (x.ledger me.other) (lettersTo x.flight me)
      (lettersTo x.flight me.other))
    (plain : ∀ envelope ∈ x.flight me ++ x.flight me.other, envelope.kind ≠ .artifactOffer) :
    Meets p x := by
  refine ⟨accord, fun side => ?_, fun side envelope hmem => plain envelope ?_⟩
  · by_cases hside : side = me
    · rw [hside]
      exact inStep
    · have hsymm := inStep.symm
      rw [Side.eq_other hside, Side.other_other]
      exact hsymm
  · by_cases hside : side = me
    · rw [hside] at hmem
      exact List.mem_append_left _ hmem
    · rw [Side.eq_other hside] at hmem
      exact List.mem_append_right _ hmem

theorem meets_opened {s : Status} (hs : awaiting s) (ledger : Ledger) :
    Meets p (.opened s ledger) := by
  refine .of_side .initiator ⟨by simp [kindsTo, Standing.opened], s, .peerReview, rfl, rfl, ?_⟩
    ?_ ?_
  · rcases hs with rfl | rfl | rfl <;> decide
  · exact ⟨by simp [lettersTo, Standing.opened], by simp [lettersTo, Standing.opened],
      by simp [lettersTo, Standing.opened], trivial, trivial, rfl⟩
  · intro envelope hmem
    cases hmem

/-- The first envelope in flight passes, and everything still goes together after it. -/
theorem Meets.deliver (h : Meets p x) {rest : List SessionEnvelope}
    (hflight : x.flight me = envelope :: rest) :
    x.Passes p me me.other envelope ∧ envelope.kind ≠ .artifactOffer ∧
      Meets p (x.taken me envelope rest) := by
  have hstep := h.inStep me
  rw [lettersTo, hflight, List.map_cons] at hstep
  obtain ⟨hadmits, hstep⟩ := hstep.deliver
  have haccord : ∃ s, statusAfter me.other true envelope.kind (x.status me) = some s ∧
      Accord ((x.taken me envelope rest).status .initiator)
        ((x.taken me envelope rest).status .receiver)
        (kindsTo (x.taken me envelope rest).flight .initiator)
        (kindsTo (x.taken me envelope rest).flight .receiver) := by
    have hboth := h.accord
    cases me with
    | initiator =>
        rw [show kindsTo x.flight .initiator = envelope.kind :: rest.map (·.kind) by
          rw [kindsTo, hflight, List.map_cons]] at hboth
        obtain ⟨s, hs, hrest⟩ := hboth.deliver_initiator
        refine ⟨s, hs, ?_⟩
        rw [statusAfter_eq hs] at hrest
        simpa [kindsTo, Standing.taken] using hrest
    | receiver =>
        rw [show kindsTo x.flight .receiver = envelope.kind :: rest.map (·.kind) by
          rw [kindsTo, hflight, List.map_cons]] at hboth
        obtain ⟨s, hs, hrest⟩ := hboth.deliver_receiver
        refine ⟨s, hs, ?_⟩
        rw [statusAfter_eq hs] at hrest
        simpa [kindsTo, Standing.taken] using hrest
  obtain ⟨s, hs, haccord⟩ := haccord
  have hplain := h.plain me
  rw [hflight] at hplain
  refine ⟨passes_of_statusAfter hs hadmits, hplain _ List.mem_cons_self,
    .of_side me haccord ?_ ?_⟩
  · simpa [lettersTo] using hstep
  · intro e he
    rw [x.taken_flight_self, x.taken_flight_other] at he
    rcases List.mem_append.mp he with he | he
    · exact hplain e (List.mem_cons_of_mem _ he)
    · exact h.plain _ e he

/-- What a side sends in turn, with turns for everything, goes together with the
rest. -/
theorem Meets.send (h : Meets p x) (hpasses : x.Passes p me me envelope)
    (hturn : InTurn me (x.status me) (x.status me.other) (kindsTo x.flight me)
      (kindsTo x.flight me.other) envelope.kind)
    (hroom : turnConsuming envelope.kind = true →
      (x.ledger me).turns + turnsIn (lettersTo x.flight me) < (x.ledger me).maxTurns)
    (hplain : envelope.kind ≠ .artifactOffer) : Meets p (x.sent me envelope) := by
  have hfirst : envelope.kind = .acceptance →
      FirstAcceptance me (x.status me) envelope.kind := by
    intro hkind
    obtain ⟨hme, hmine⟩ := hturn.acceptance hkind
    rw [hkind, hmine]
    exact ⟨rfl, hme, rfl⟩
  obtain ⟨hadmits, hafter⟩ := hpasses.statusAfter hfirst
  have hown : statusAfter me false envelope.kind (x.status me) =
      some (movedStatus false envelope.kind (x.status me)) := hafter
  have hauthor : (letterOf me envelope).author = me := rfl
  have hstep := (h.inStep me).send hauthor (fun hkind => (hturn.acceptance hkind).1) hadmits hroom
  have haccord : Accord ((x.sent me envelope).status .initiator)
      ((x.sent me envelope).status .receiver) (kindsTo (x.sent me envelope).flight .initiator)
      (kindsTo (x.sent me envelope).flight .receiver) := by
    cases me with
    | initiator =>
        simpa [kindsTo, Standing.sent, Side.other] using h.accord.send_initiator hown hturn
    | receiver =>
        simpa [kindsTo, Standing.sent, Side.other] using h.accord.send_receiver hown hturn
  refine .of_side me haccord ?_ ?_
  · simpa [lettersTo] using hstep
  · intro e he
    rw [x.sent_flight_self, x.sent_flight_other, ← List.append_assoc, List.mem_append,
      List.mem_singleton] at he
    rcases he with he | rfl
    · rcases List.mem_append.mp he with he | he
      · exact h.plain _ e he
      · exact h.plain _ e he
    · exact hplain

end Meets

/-! ### Reading the order at a world -/

section Reading

variable {p : Parties} {me : Side} {w : World} {x : Standing} {db : Db} {inbox : List Fields}
  {flight : List SessionEnvelope} {status : Status} {ledger : Ledger}

theorem kindsIn_of_genuine {author : Side} (h : List.Forall₂ (Genuine p author) inbox flight) :
    kindsIn inbox = flight.map (·.kind) := by
  induction h with
  | nil => rfl
  | cons hbody _ ih =>
      rw [kindsIn, List.filterMap_cons, hbody.valid, List.map_cons, ← ih]
      rfl

theorem statusOf_of_holds (h : Holds p me db status ledger) : statusOf p db = status := by
  obtain ⟨row, hrow, -, hstatus, -⟩ := h.row
  rw [statusOf, hrow]
  exact hstatus

theorem turns_of_holds (h : Holds p me db status ledger) :
    turnsOf p db = ledger.turns ∧ turnLimitAt p db = ledger.maxTurns := by
  obtain ⟨row, hrow, -, -, rfl⟩ := h.row
  rw [turnLimitAt, hrow]
  exact ⟨rfl, rfl⟩

theorem Stands.statusOf_eq (h : Stands p me db inbox flight status ledger) :
    statusOf p db = status := by
  cases h with
  | holds h _ => exact statusOf_of_holds h
  | pending _ habsent hstatus _ _ _ =>
      rw [statusOf, habsent.session, hstatus]
      rfl

/-- A request that is still in flight does not hold the initiator up. -/
theorem InTurn.of_pending {mine : Status} {toMe toThem : List MessageKind} {kind first : MessageKind}
    (h : InTurn .initiator mine .peerReview toMe (first :: toThem) kind) :
    InTurn .initiator mine .peerReview toMe toThem kind where
  known := h.known
  quiet := h.quiet
  last := h.last
  acceptance := h.acceptance
  reply := fun hme => by cases hme
  cancel := h.cancel
  started := fun _ _ hboth => by cases hboth.1

/-- The order at a world, as statuses and envelopes in flight say it. -/
theorem InOrder.inTurn {kind : MessageKind} (h : InOrder p w me kind) (hstands : Together p w x)
    (hstored : ((w.db me).session? p.sessionId).isSome = true) :
    InTurn me (x.status me) (x.status me.other) (kindsTo x.flight me) (kindsTo x.flight me.other)
      kind := by
  obtain ⟨hholds, hflight⟩ := hstands.holds hstored
  have hother := hstands me.other
  have hturn := h.turn
  rw [statusOf_of_holds hholds, kindsIn_of_genuine hflight, hother.statusOf_eq] at hturn
  generalize hflight' : x.flight me.other = flight' at hother
  rw [kindsTo, kindsTo, hflight']
  cases hother with
  | holds _ hgenuine =>
      rw [kindsIn_of_genuine hgenuine] at hturn
      exact hturn
  | pending hreceiver _ hstatus hasks hinbox hgenuine =>
      have hme : me = .initiator := by
        cases me with
        | initiator => rfl
        | receiver => cases hreceiver
      subst hme
      obtain ⟨envelope, hfirst, -⟩ := hasks
      rw [hinbox, kindsIn, List.filterMap_cons, hfirst.valid] at hturn
      rw [hstatus] at hturn ⊢
      have hkinds := kindsIn_of_genuine hgenuine
      rw [kindsIn] at hkinds
      rw [hkinds] at hturn
      exact hturn.of_pending

theorem InOrder.roomFor {kind : MessageKind} (h : InOrder p w me kind) (hstands : Together p w x)
    (hstored : ((w.db me).session? p.sessionId).isSome = true) (hkind : turnConsuming kind = true) :
    (x.ledger me).turns + turnsIn (lettersTo x.flight me) < (x.ledger me).maxTurns := by
  obtain ⟨hholds, hflight⟩ := hstands.holds hstored
  obtain ⟨hturns, hlimit⟩ := turns_of_holds hholds
  have hroom := h.room hkind
  rw [hturns, hlimit, kindsIn_of_genuine hflight, List.countP_map] at hroom
  rw [turnsIn, lettersTo, List.countP_map]
  exact hroom

end Reading

/-- Honest nodes that send in order stay together, and accept what arrives. -/
theorem joint_of_inOrder {p : Parties} {w : World} {action : Action} (hjoint : Joint p (Meets p) w)
    (hhonest : Honest p w action) (hordered : Ordered p w action) :
    DeliveryAccepted w action ∧ Joint p (Meets p) (step p w action) := by
  refine hjoint.step hhonest (fun s ledger hs => meets_opened hs ledger) ?_ ?_
  · intro me result hresult x envelope hmeets hstands hposts
    obtain ⟨t, hsent, hgenuine⟩ := hposts.sent
    have horder : InOrder p w me envelope.kind := by
      cases action with
      | dispatch sender request =>
          -- a dispatch posts nothing in a session that is there already
          cases hresult
          have hstored := hposts.stored
          rw [hhonest.2.2.2.1] at hstored
          cases hstored
      | send side sender kind payload agentId =>
          cases hresult
          exact hordered t hsent envelope hgenuine.valid
      | respond side sender decision agentId reason =>
          cases hresult
          exact hordered t hsent envelope hgenuine.valid
      | deliver side ctx => cases hresult
      | elsewhere side db => cases hresult
    exact hmeets.send hposts.passes (horder.inTurn hstands hposts.stored)
      (horder.roomFor hstands hposts.stored) hposts.plain
  · intro me ctx body rest _ _ x envelope envelopes hmeets hflight _ _
    exact hmeets.deliver hflight

end Kin.Pair
