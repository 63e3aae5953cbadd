import Kin.Pair.InOrder

/-!
Two nodes that hold one session, over whole runs. Between honest nodes nothing but the status,
the agents and the turns of the receiving node decides about an envelope that arrives; where
everything is accepted, a session that is over on one node is over on the other.
-/

namespace Kin.Pair

open Kin.Py Kin.Lib Kin.Schemas Kin.Session Kin.Storage Kin.Audit Kin.Node Kin.Transport

/-- The session of the receiving node allows the envelope that arrives. A node without the
session takes in the request. -/
def Admissible (p : Parties) (w : World) : Action → Prop
  | .deliver side _ => ∀ body ∈ (w.inbox side).head?, ∀ envelope ∈ validateEnvelope body,
      ∀ row ∈ (w.db side).session? p.sessionId,
        Allows p.name row.status (ledgerOf p row ((w.db side).eventsOf p.sessionId))
          (letterOf side.other envelope)
  | _ => True

/-! ### Numbers in flight -/

/-- The envelopes carry the numbers from the first count to the second. -/
def Numbered (n : Nat) (envelopes : List SessionEnvelope) (m : Nat) : Prop :=
  envelopes.map (·.sequence) = List.range' (n + 1) envelopes.length ∧ m = n + envelopes.length

section Numbered

variable {n m : Nat} {envelopes : List SessionEnvelope} {envelope : SessionEnvelope}

theorem numbered_nil (n : Nat) : Numbered n [] n := ⟨rfl, rfl⟩

theorem Numbered.tail (h : Numbered n (envelope :: envelopes) m) :
    envelope.sequence = n + 1 ∧ Numbered (n + 1) envelopes m := by
  obtain ⟨hsequences, rfl⟩ := h
  rw [List.map_cons, List.length_cons, List.range'_succ, List.cons.injEq] at hsequences
  refine ⟨hsequences.1, hsequences.2, ?_⟩
  rw [List.length_cons]
  omega

theorem Numbered.concat (h : Numbered n envelopes m) (hnext : envelope.sequence = m + 1) :
    Numbered n (envelopes ++ [envelope]) (m + 1) := by
  obtain ⟨hsequences, rfl⟩ := h
  refine ⟨?_, by rw [List.length_append, List.length_singleton]; omega⟩
  rw [List.map_append, hsequences, List.map_singleton, hnext, List.length_append,
    List.length_singleton, List.range'_concat]
  congr 2
  omega

end Numbered

/-! ### The end of a session -/

section Moved

variable {status t : Status} {kind : MessageKind} {isPeer : Bool}

theorem settledStatus_of_terminal (h : isTerminalState t = true) :
    settledStatus t kind isPeer = t := by
  cases isPeer
  · rfl
  · cases t <;> first | rfl | cases h

theorem terminal_of_settledStatus (h : isTerminalState (settledStatus t kind isPeer) = true) :
    isTerminalState t = true := by
  cases isPeer
  · exact h
  · cases t with
    | sent =>
        simp only [settledStatus, if_true] at h
        split at h <;> cases h
    | accepted => cases h
    | _ => exact h

/-- A kind of an end leads there. -/
theorem movedStatus_of_ending (hkind : peerKindTransition kind = some t)
    (hterm : isTerminalState t = true) : movedStatus isPeer kind status = t := by
  rw [movedStatus, hkind, Option.getD_some, settledStatus_of_terminal hterm]

/-- Only a kind of its own leads to an end. -/
theorem ending_of_movedStatus (hlive : isTerminalState status = false)
    (hterm : isTerminalState (movedStatus isPeer kind status) = true) :
    peerKindTransition kind = some (movedStatus isPeer kind status) := by
  have htarget := terminal_of_settledStatus hterm
  cases hkind : peerKindTransition kind with
  | none =>
      rw [hkind, Option.getD_none, isTerminalState_reviewStatus hlive] at htarget
      cases htarget
  | some t =>
      rw [hkind, Option.getD_some] at htarget
      rw [movedStatus_of_ending hkind htarget]

end Moved

/-! ### What holds of any two nodes -/

/-- The numbers in flight are the next ones, and an end that one node has reached is the
other's, or on its way there. -/
structure Tracked (x : Standing) : Prop where
  numbered : ∀ me : Side,
    Numbered ((x.ledger me).last me.other) (x.flight me) ((x.ledger me.other).last me.other)
  accepting : ∀ side, ∀ envelope ∈ x.flight side,
    envelope.kind = .acceptance → (asText (acceptingAgentId envelope)).isSome = true
  plain : ∀ side, ∀ envelope ∈ x.flight side, envelope.kind ≠ .artifactOffer
  ending : ∀ side : Side, ∀ envelope ∈ x.flight side, ∀ t,
    peerKindTransition envelope.kind = some t → isTerminalState t = true → x.status side.other = t
  ended : ∀ side : Side, isTerminalState (x.status side) = true →
    x.status side.other = x.status side ∨
      ∃ envelope ∈ x.flight side.other, peerKindTransition envelope.kind = some (x.status side)

section Tracked

variable {p : Parties} {me : Side} {x : Standing} {envelope : SessionEnvelope}
  {rest : List SessionEnvelope}

/-- What holds of a side and of the other one holds of both. -/
theorem forall_side {P : Side → Prop} (me : Side) (hme : P me) (hother : P me.other) (side : Side) :
    P side := by
  by_cases hside : side = me
  · rw [hside]
    exact hme
  · rw [Side.eq_other hside]
    exact hother

theorem tracked_opened {s : Status} (hs : awaiting s) (ledger : Ledger) :
    Tracked (.opened s ledger) where
  numbered _ := numbered_nil _
  accepting _ _ hmem := absurd hmem List.not_mem_nil
  plain _ _ hmem := absurd hmem List.not_mem_nil
  ending _ _ hmem := absurd hmem List.not_mem_nil
  ended side hterm := by
    cases side with
    | initiator => rcases hs with rfl | rfl | rfl <;> cases hterm
    | receiver => cases hterm

theorem last_record_self {ledger : Ledger} {letter : Letter} :
    (ledger.record letter).last letter.author = ledger.last letter.author + 1 :=
  Function.update_self ..

theorem Tracked.sent (h : Tracked x) (hpasses : x.Passes p me me envelope)
    (hplain : envelope.kind ≠ .artifactOffer) : Tracked (x.sent me envelope) := by
  have hlive : isTerminalState (x.status me) = false := hpasses.live
  have hkeeps : ∀ {P : SessionEnvelope → Prop}, (∀ e ∈ x.flight me.other, P e) → P envelope →
      ∀ e ∈ x.flight me.other ++ [envelope], P e := by
    intro P hflight henvelope e hmem
    rcases List.mem_append.mp hmem with hmem | hmem
    · exact hflight e hmem
    · rw [List.mem_singleton.mp hmem]
      exact henvelope
  refine ⟨forall_side me ?_ ?_, forall_side me ?_ ?_, forall_side me ?_ ?_, forall_side me ?_ ?_,
    forall_side me ?_ ?_⟩
  · rw [x.sent_ledger_self, x.sent_ledger_other, x.sent_flight_self,
      last_record_of_ne (Side.other_ne me).symm]
    exact h.numbered me
  · have hnumbered := h.numbered me.other
    rw [Side.other_other] at hnumbered ⊢
    rw [x.sent_ledger_self, x.sent_ledger_other, x.sent_flight_other]
    have hlast : ((x.ledger me).record (letterOf me envelope)).last me =
        (x.ledger me).last me + 1 := last_record_self
    rw [hlast]
    exact hnumbered.concat hpasses.sequence
  · rw [x.sent_flight_self]
    exact h.accepting me
  · rw [x.sent_flight_other]
    exact hkeeps (h.accepting me.other) hpasses.accepting
  · rw [x.sent_flight_self]
    exact h.plain me
  · rw [x.sent_flight_other]
    exact hkeeps (h.plain me.other) hplain
  · rw [x.sent_flight_self, x.sent_status_other]
    exact h.ending me
  · rw [x.sent_flight_other, Side.other_other, x.sent_status_self]
    refine hkeeps (fun e he t hkind hterm => ?_) fun t hkind hterm =>
      movedStatus_of_ending hkind hterm
    have hend := h.ending me.other e he t hkind hterm
    rw [Side.other_other] at hend
    rw [hend, hterm] at hlive
    cases hlive
  · rw [x.sent_status_self, x.sent_flight_other]
    intro hterm
    exact .inr ⟨envelope, by simp, ending_of_movedStatus hlive hterm⟩
  · rw [x.sent_status_other, Side.other_other, x.sent_status_self, x.sent_flight_self]
    intro hterm
    rcases h.ended me.other hterm with hsame | hflight
    · rw [Side.other_other] at hsame
      rw [hsame, hterm] at hlive
      cases hlive
    · rw [Side.other_other] at hflight
      exact .inr hflight

theorem Tracked.taken (h : Tracked x) (hflight : x.flight me = envelope :: rest)
    (hpasses : x.Passes p me me.other envelope) : Tracked (x.taken me envelope rest) := by
  have hlive : isTerminalState (x.status me) = false := hpasses.live
  have hrest : ∀ {P : SessionEnvelope → Prop}, (∀ e ∈ x.flight me, P e) → ∀ e ∈ rest, P e := by
    intro P hall e hmem
    exact hall e (by rw [hflight]; exact List.mem_cons_of_mem _ hmem)
  have hfirst : envelope ∈ x.flight me := by
    rw [hflight]
    exact List.mem_cons_self
  refine ⟨forall_side me ?_ ?_, forall_side me ?_ ?_, forall_side me ?_ ?_, forall_side me ?_ ?_,
    forall_side me ?_ ?_⟩
  · have hnumbered := h.numbered me
    rw [hflight] at hnumbered
    rw [x.taken_ledger_self, x.taken_ledger_other, x.taken_flight_self]
    have hlast : ((x.ledger me).record (letterOf me.other envelope)).last me.other =
        (x.ledger me).last me.other + 1 := last_record_self
    rw [hlast]
    exact hnumbered.tail.2
  · have hnumbered := h.numbered me.other
    rw [Side.other_other] at hnumbered ⊢
    rw [x.taken_ledger_self, x.taken_ledger_other, x.taken_flight_other,
      last_record_of_ne (Side.other_ne me)]
    exact hnumbered
  · rw [x.taken_flight_self]
    exact hrest (h.accepting me)
  · rw [x.taken_flight_other]
    exact h.accepting me.other
  · rw [x.taken_flight_self]
    exact hrest (h.plain me)
  · rw [x.taken_flight_other]
    exact h.plain me.other
  · rw [x.taken_flight_self, x.taken_status_other]
    exact hrest (h.ending me)
  · rw [x.taken_flight_other, Side.other_other]
    intro e he t hkind hterm
    have hend := h.ending me.other e he t hkind hterm
    rw [Side.other_other] at hend
    rw [hend, hterm] at hlive
    cases hlive
  · rw [x.taken_status_self, x.taken_status_other]
    intro hterm
    exact .inl (h.ending me envelope hfirst _ (ending_of_movedStatus hlive hterm) hterm)
  · rw [x.taken_status_other, Side.other_other, x.taken_status_self, x.taken_flight_self]
    intro hterm
    rcases h.ended me.other hterm with hsame | ⟨e, he, hkind⟩
    · rw [Side.other_other] at hsame
      rw [hsame, hterm] at hlive
      cases hlive
    · rw [Side.other_other, hflight, List.mem_cons] at he
      rcases he with rfl | he
      · exact .inl (movedStatus_of_ending hkind hterm)
      · exact .inr ⟨e, he, hkind⟩

end Tracked

/-! ### One action -/

section Action

variable {p : Parties} {w : World} {action : Action}

theorem Holds.read {me : Side} {db : Db} {status : Status} {ledger : Ledger} {row : SessionRow}
    (h : Holds p me db status ledger) (hrow : db.session? p.sessionId = some row) :
    row.status = status ∧ ledgerOf p row (db.eventsOf p.sessionId) = ledger := by
  obtain ⟨row', hrow', -, hstatus, hledger⟩ := h.row
  rw [hrow] at hrow'
  cases hrow'
  exact ⟨hstatus, hledger⟩

theorem admissible_of_accepted {G : Standing → Prop} (hjoint : Joint p G w)
    (haccepted : DeliveryAccepted w action) : Admissible p w action := by
  cases action with
  | deliver side ctx =>
      intro body hbody envelope hvalid row hrow
      obtain ⟨rest, hinbox⟩ := List.head?_eq_some_iff.mp hbody
      rcases hjoint with hapart | ⟨x, -, hstands⟩
      · rw [(hapart side).2] at hinbox
        cases hinbox
      obtain ⟨hholds, hgenuine⟩ := hstands.holds (by rw [hrow]; rfl)
      rw [hinbox] at hgenuine
      obtain ⟨envelope', -, hfirst, -, -⟩ := List.forall₂_cons_left_iff.mp hgenuine
      rw [Option.mem_def, hfirst.valid] at hvalid
      cases hvalid
      obtain ⟨hstatus, hledger⟩ := hholds.read hrow
      rw [hstatus, hledger]
      exact (hholds.passes_of_accepted hfirst (haccepted body rest hinbox)).toAllows
  | _ => trivial

/-- What is admissible is accepted, and the nodes stay in step. -/
theorem joint_of_admissible (hjoint : Joint p Tracked w) (hhonest : Honest p w action)
    (hadmissible : Admissible p w action) :
    DeliveryAccepted w action ∧ Joint p Tracked (step p w action) := by
  refine hjoint.step hhonest (fun s ledger hs => tracked_opened hs ledger) ?_ ?_
  · intro me result _ x envelope htracked _ hposts
    exact htracked.sent hposts.passes hposts.plain
  · rintro me ctx body rest rfl hinbox x envelope envelopes htracked hflight hgenuine hholds
    have hfirst : envelope ∈ x.flight me := by
      rw [hflight]
      exact List.mem_cons_self
    have hnumbered := htracked.numbered me
    rw [hflight] at hnumbered
    obtain ⟨row, hrow, -, hstatus, hledger⟩ := hholds.row
    have hallows := hadmissible body (by rw [hinbox]; rfl) envelope hgenuine.valid row hrow
    rw [hstatus, hledger] at hallows
    have hpasses : x.Passes p me me.other envelope :=
      ⟨hallows, hnumbered.tail.1, htracked.accepting me envelope hfirst⟩
    exact ⟨hpasses, htracked.plain me envelope hfirst, htracked.taken hflight hpasses⟩

end Action

/-! ### Agreement -/

theorem inStatus_iff {p : Parties} {w : World} {side : Side} {status : Status} :
    InStatus p w side status ↔ (w.db side).status? p.sessionId = some status := by
  simp [InStatus, Db.status?, Option.map_eq_some_iff]

def answersDelivered (w : World) (side : Side) (ctx : IngestContext) : Bool :=
  (w.inbox side).head?.all fun body =>
    (ingestEnvelope ctx (w.db side) body).exit.toOption.any fun ack => ack.status == .delivered

theorem answersDelivered_of_accepted {w : World} {side : Side} {ctx : IngestContext}
    (h : DeliveryAccepted w (.deliver side ctx)) : answersDelivered w side ctx = true := by
  unfold answersDelivered
  cases hinbox : w.inbox side with
  | nil => rfl
  | cons body rest =>
      obtain ⟨-, ack, hexit, hstatus⟩ := h body rest hinbox
      simp [hexit, Except.toOption, hstatus]

/-- With nothing in flight, a session is over on one node exactly when it is over
on the other, and in the same way. -/
theorem Joint.agrees {p : Parties} {w : World} (h : Joint p Tracked w)
    (hempty : ∀ side, w.inbox side = []) {status : Status} (hterm : isTerminalState status = true) :
    InStatus p w .initiator status ↔ InStatus p w .receiver status := by
  rcases h with hapart | ⟨x, htracked, hstands⟩
  · have hnone : ∀ side, ¬InStatus p w side status := by
      rintro side ⟨row, hrow, -⟩
      rw [(hapart side).1.session] at hrow
      cases hrow
    exact iff_of_false (hnone _) (hnone _)
  · have hside : ∀ side, (InStatus p w side status ↔ x.status side = status) ∧
        x.flight side = [] := by
      intro side
      have hstand := hstands side
      rw [hempty] at hstand
      generalize hflight : x.flight side = flight at hstand
      cases hstand with
      | pending _ _ _ _ hinbox _ => cases hinbox
      | holds h hgenuine =>
          refine ⟨⟨?_, fun hcurrent => ?_⟩, List.forall₂_nil_left_iff.mp hgenuine⟩
          · rintro ⟨row, hrow, rfl⟩
            exact (h.read hrow).1.symm
          · obtain ⟨row, hrow, -, hstatus, -⟩ := h.row
            exact ⟨row, hrow, hstatus.trans hcurrent⟩
    have hover : ∀ side : Side, x.status side = status → x.status side.other = status := by
      intro side hstatus
      rcases htracked.ended side (by rw [hstatus]; exact hterm) with hsame | ⟨e, he, -⟩
      · exact hsame.trans hstatus
      · rw [(hside side.other).2] at he
        cases he
    rw [(hside .initiator).1, (hside .receiver).1]
    exact ⟨hover .initiator, hover .receiver⟩

namespace Sample

open Kin.Transport.Sample

/-- `alice` asks `bob`. -/
def parties : Parties where
  ext := externals
  sessionId := "s1"
  name := fun | .initiator => "alice" | .receiver => "bob"
  key := fun | .initiator => "alice" | .receiver => "bob"
  distinct := by decide
  named := fun | .initiator => by decide | .receiver => by decide

/-- Both nodes before anything happened; `bob` has an agent. -/
def start : World where
  db := fun
    | .initiator => Db.fresh (some "alice") [] []
    | .receiver => Db.fresh (some "bob") [] [⟨"bot", true, "available", none⟩]
  inbox _ := []

/-- `alice`'s request is accepted by `bob`, and both know it. -/
def accepted : List Action :=
  [.dispatch (sender "alice")
      { sessionId := "s1", peerUsername := "bob", senderAgentId := "scout",
        receiverAgentId := "bot", mode := .ask, goal := "hello" },
   .deliver .receiver context,
   .respond .receiver (sender "bob") .accept (some "bot") none,
   .deliver .initiator context]

/-- `alice` sends a proposal and `bob` the result. -/
def completed : List Action :=
  [.send .initiator (sender "alice") .proposal [(.text "text", .text "first")] (some "scout"),
   .deliver .receiver context,
   .send .receiver (sender "bob") .finalResult [(.text "summary", .text "done")] (some "bot"),
   .deliver .initiator context]

/-- `alice` ends the session that `bob` has accepted and heard nothing of since. -/
def result : Action :=
  .send .initiator (sender "alice") .finalResult [(.text "summary", .text "done")] (some "scout")

def endedEarly : List Action := [result, .deliver .receiver context]

theorem start_apart : Apart parties start := by
  rintro (_ | _)
  · exact ⟨⟨rfl, logInvariant_fresh .., rfl⟩, rfl⟩
  · exact ⟨⟨rfl, logInvariant_fresh .., rfl⟩, rfl⟩

theorem knows_context (side : Side) : Knows parties side context := by
  cases side <;> exact ⟨rfl, rfl⟩

theorem sendsFor (side : Side) : SendsFor parties side (sender (parties.name side)) := by
  cases side <;> exact ⟨rfl, rfl, rfl⟩

/-- The world after `bob`'s acceptance has arrived. -/
@[irreducible] def active : World := run (step parties) start accepted

theorem run_accepted (actions : List Action) :
    run (step parties) start (accepted ++ actions) = run (step parties) active actions := by
  rw [run_append, active]

theorem along_accepted {C : World → Action → Prop} {actions : List Action} :
    Along (step parties) C start (accepted ++ actions) ↔
      Along (step parties) C start accepted ∧ Along (step parties) C active actions := by
  rw [along_append, active]

/-- The world in which `alice`'s early result is in flight. -/
@[irreducible] def early : World := step parties active result

/-- What the runs of the sample come to, decided together: each clause runs the same nodes. -/
theorem runs_facts :
    (Timely parties ((run (step parties) start (accepted.take 1)).db .receiver) time ∧
      Timely parties ((run (step parties) start (accepted.take 2)).db .receiver) time ∧
      Timely parties ((run (step parties) start (accepted.take 3)).db .initiator) time ∧
      InOrderResult parties (run (step parties) start (accepted.take 2)) .receiver
        (respondToSession (sender "bob")
          ((run (step parties) start (accepted.take 2)).db .receiver) "s1" .accept
          (some "bot") none)) ∧
    (Timely parties (active.db .initiator) time ∧
      Timely parties ((run (step parties) active (completed.take 1)).db .receiver) time ∧
      Timely parties ((run (step parties) active (completed.take 2)).db .receiver) time ∧
      Timely parties ((run (step parties) active (completed.take 3)).db .initiator) time ∧
      InOrderResult parties active .initiator (sendSessionMessage (sender "alice")
        (active.db .initiator) "s1" .proposal [(.text "text", .text "first")] (some "scout")) ∧
      InOrderResult parties (run (step parties) active (completed.take 2)) .receiver
        (sendSessionMessage (sender "bob") ((run (step parties) active (completed.take 2)).db
          .receiver) "s1" .finalResult [(.text "summary", .text "done")] (some "bot")) ∧
      (run (step parties) active completed).inbox .initiator = [] ∧
      (run (step parties) active completed).inbox .receiver = [] ∧
      ((run (step parties) active completed).db .initiator).status? parties.sessionId =
        some .completed) ∧
    (Timely parties (early.db .receiver) time ∧
      answersDelivered early .receiver context = false ∧
      (run (step parties) active endedEarly).inbox .initiator = [] ∧
      (run (step parties) active endedEarly).inbox .receiver = [] ∧
      ((run (step parties) active endedEarly).db .initiator).status? parties.sessionId =
        some .completed ∧
      ((run (step parties) active endedEarly).db .receiver).status? parties.sessionId =
        some .accepted) := by
  decide +kernel

theorem accepted_honest : Along (step parties) (Honest parties) start accepted := by
  obtain ⟨hrequest, hrespond, haccept, -⟩ := runs_facts.1
  exact ⟨⟨sendsFor .initiator, rfl, rfl, rfl, fun _ _ => rfl⟩, ⟨knows_context _, hrequest⟩,
    ⟨sendsFor .receiver, hrespond⟩, ⟨knows_context _, haccept⟩, trivial⟩

theorem accepted_ordered : Along (step parties) (Ordered parties) start accepted := by
  obtain ⟨-, -, -, horder⟩ := runs_facts.1
  exact ⟨trivial, trivial, horder, trivial, trivial⟩

theorem completed_honest : Along (step parties) (Honest parties) active completed := by
  obtain ⟨h1, h2, h3, h4, -⟩ := runs_facts.2.1
  exact ⟨⟨sendsFor .initiator, h1, by decide⟩, ⟨knows_context _, h2⟩,
    ⟨sendsFor .receiver, h3, by decide⟩, ⟨knows_context _, h4⟩, trivial⟩

theorem completed_ordered : Along (step parties) (Ordered parties) active completed := by
  obtain ⟨-, -, -, -, hproposal, hresult, -⟩ := runs_facts.2.1
  exact ⟨hproposal, trivial, hresult, trivial, trivial⟩

theorem endedEarly_honest : Along (step parties) (Honest parties) active endedEarly := by
  have hearly := runs_facts.2.2.1
  rw [early] at hearly
  exact ⟨⟨sendsFor .initiator, runs_facts.2.1.1, by decide⟩, ⟨knows_context _, hearly⟩, trivial⟩

theorem completed_end :
    (run (step parties) active completed).inbox .initiator = [] ∧
      (run (step parties) active completed).inbox .receiver = [] ∧
      ((run (step parties) active completed).db .initiator).status? parties.sessionId =
        some .completed :=
  runs_facts.2.1.2.2.2.2.2.2

theorem endedEarly_end :
    answersDelivered early .receiver context = false ∧
      (run (step parties) active endedEarly).inbox .initiator = [] ∧
      (run (step parties) active endedEarly).inbox .receiver = [] ∧
      ((run (step parties) active endedEarly).db .initiator).status? parties.sessionId =
        some .completed ∧
      ((run (step parties) active endedEarly).db .receiver).status? parties.sessionId =
        some .accepted :=
  runs_facts.2.2.2

end Sample

/-- In every run of two honest nodes everything that arrives is accepted exactly if the session
of the receiving node allows it on arrival; it does where each side sends in order. Where
everything is accepted and nothing is in flight, a session is completed, declined or cancelled
on one node exactly when it is on the other. -/
theorem nodes_agree (p : Parties) (w : World) (hstart : Apart p w) (actions : List Action)
    (hhonest : Along (step p) (Honest p) w actions) :
    (Along (step p) DeliveryAccepted w actions ↔ Along (step p) (Admissible p) w actions) ∧
      (Along (step p) (Ordered p) w actions → Along (step p) DeliveryAccepted w actions) ∧
      (Along (step p) DeliveryAccepted w actions →
        (∀ side, (run (step p) w actions).inbox side = []) →
        ∀ status ∈ [Status.completed, .declined, .cancelled],
          (InStatus p (run (step p) w actions) .initiator status ↔
            InStatus p (run (step p) w actions) .receiver status)) := by
  have hjoint : ∀ G, Joint p G w := fun G => .inl hstart
  have hstep : ∀ w action, Joint p Tracked w → Honest p w action ∧ DeliveryAccepted w action →
      Joint p Tracked (step p w action) := fun w action hjoint h =>
    (joint_of_admissible hjoint h.1 (admissible_of_accepted hjoint h.2)).2
  have hadmitted : ∀ w action, Joint p Tracked w → Honest p w action ∧ Admissible p w action →
      DeliveryAccepted w action ∧ Joint p Tracked (step p w action) :=
    fun w action hjoint h => joint_of_admissible hjoint h.1 h.2
  have hinOrder : ∀ w action, Joint p (Meets p) w → Honest p w action ∧ Ordered p w action →
      DeliveryAccepted w action ∧ Joint p (Meets p) (step p w action) :=
    fun w action hjoint h => joint_of_inOrder hjoint h.1 h.2
  refine ⟨⟨fun haccepted => ?_, fun hadmissible => ?_⟩, fun hordered => ?_,
    fun haccepted hempty status hmem => ?_⟩
  · exact along_of_invariant hstep (fun w action hjoint h => admissible_of_accepted hjoint h.2)
      (hjoint _) (hhonest.and haccepted)
  · exact along_of_invariant (fun w action hjoint h => (hadmitted w action hjoint h).2)
      (fun w action hjoint h => (hadmitted w action hjoint h).1) (hjoint _)
      (hhonest.and hadmissible)
  · exact along_of_invariant (fun w action hjoint h => (hinOrder w action hjoint h).2)
      (fun w action hjoint h => (hinOrder w action hjoint h).1) (hjoint _) (hhonest.and hordered)
  · refine (run_of_along hstep (hjoint _) (hhonest.and haccepted)).agrees hempty ?_
    simp only [List.mem_cons, List.not_mem_nil, or_false] at hmem
    rcases hmem with rfl | rfl | rfl <;> rfl

/-- A request that is accepted and answered: everything is admissible and accepted, and both
nodes end in `completed`. -/
theorem nodes_agree_completed :
    Along (step Sample.parties) DeliveryAccepted Sample.start
        (Sample.accepted ++ Sample.completed) ∧
      Along (step Sample.parties) (Admissible Sample.parties) Sample.start
        (Sample.accepted ++ Sample.completed) ∧
      InStatus Sample.parties (run (step Sample.parties) Sample.start
        (Sample.accepted ++ Sample.completed)) .receiver .completed := by
  obtain ⟨hexact, hinOrder, hagree⟩ := nodes_agree Sample.parties Sample.start Sample.start_apart
    (Sample.accepted ++ Sample.completed)
    (Sample.along_accepted.mpr ⟨Sample.accepted_honest, Sample.completed_honest⟩)
  have haccepted := hinOrder
    (Sample.along_accepted.mpr ⟨Sample.accepted_ordered, Sample.completed_ordered⟩)
  have hboth := hagree haccepted
  refine ⟨haccepted, hexact.mp haccepted, ?_⟩
  rw [Sample.run_accepted] at hboth ⊢
  obtain ⟨hempty, hempty', hstatus⟩ := Sample.completed_end
  refine (hboth ?_ .completed (by simp)).mp (inStatus_iff.mpr hstatus)
  rintro (_ | _)
  · exact hempty
  · exact hempty'

/-- `bob` has accepted and is not `active` before he hears from `alice` again, so
he refuses the result that `alice`'s node has accepted: with nothing in flight
the session is completed on her node only. -/
theorem early_result_refused :
    Along (step Sample.parties) (Honest Sample.parties) Sample.start
        (Sample.accepted ++ Sample.endedEarly) ∧
      ¬Along (step Sample.parties) DeliveryAccepted Sample.start
        (Sample.accepted ++ Sample.endedEarly) ∧
      (∀ side, (run (step Sample.parties) Sample.start
        (Sample.accepted ++ Sample.endedEarly)).inbox side = []) ∧
      InStatus Sample.parties (run (step Sample.parties) Sample.start
        (Sample.accepted ++ Sample.endedEarly)) .initiator .completed ∧
      InStatus Sample.parties (run (step Sample.parties) Sample.start
        (Sample.accepted ++ Sample.endedEarly)) .receiver .accepted := by
  obtain ⟨hrefused, hempty, hempty', hinitiator, hreceiver⟩ := Sample.endedEarly_end
  refine ⟨Sample.along_accepted.mpr ⟨Sample.accepted_honest, Sample.endedEarly_honest⟩, ?_, ?_⟩
  · rw [Sample.along_accepted]
    rintro ⟨-, -, hdelivery, -⟩
    rw [← Sample.early] at hdelivery
    rw [answersDelivered_of_accepted hdelivery] at hrefused
    cases hrefused
  · rw [Sample.run_accepted]
    refine ⟨?_, inStatus_iff.mpr hinitiator, inStatus_iff.mpr hreceiver⟩
    rintro (_ | _)
    · exact hempty
    · exact hempty'

end Kin.Pair
