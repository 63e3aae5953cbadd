import Kin.Gateway.Sessions
import Kin.Lib.Run

/-!
`forward_body` of `kin_gateway/app.py`: the generator that hands the chunks of an
upstream stream to the client. It is suspended in one of two places, at the read of the
next chunk and at the `yield` of the last one, and leaves either of them normally or
through an exception. The outcome it records starts out as `forwarded` and is changed
by the handlers of three exceptions; the `GeneratorExit` of a client that closes the
generator at a `yield` is none of them.
-/

namespace Kin.Gateway

open Kin.Lib

inductive StreamPhase
  | reading
  | yielded
  | ended (completion : Completion)
  deriving DecidableEq

/-- What happens to a suspended generator. The first four end a read, the others a
`yield`. -/
inductive StreamEvent
  | next
  | timeoutError
  | cancelledError
  | httpError
  | resume
  | generatorExit
  deriving DecidableEq

/-- The generator with its surroundings: the chunks the upstream has still to send, the
chunks the client was handed, the two resources and the sessions recorded. -/
structure Forwarding where
  pending : List Bytes
  handed : List Bytes
  phase : StreamPhase
  responseClosed : Bool
  clientClosed : Bool
  completed : Bool
  records : List ExternalTaskSession

/-- The generator at its start, in front of an upstream body. -/
def Forwarding.start (body : List Bytes) : Forwarding :=
  { pending := body, handed := [], phase := .reading, responseClosed := false
    clientClosed := false, completed := false, records := [] }

/-- The value of `outcome` when the `finally` block is entered. -/
def outcomeAt : StreamEvent → Outcome
  | .timeoutError => .upstreamTimeout
  | .cancelledError => .clientDisconnected
  | .httpError => .upstreamDisconnected
  | .next | .resume | .generatorExit => .forwarded

section

variable (o : Observation) (tracker : Tracker)

/-- The `finally` block: both resources are closed, and the tracker completes unless it
has done so before. -/
def Forwarding.finish (s : Forwarding) (event : StreamEvent) : Forwarding :=
  let closed := { s with responseClosed := true, clientClosed := true }
  if s.completed then { closed with phase := .ended .done }
  else
    let (record, completion) := o.complete tracker (outcomeAt event) none
    { closed with
      completed := true, records := s.records ++ record.toList, phase := .ended completion }

/-- One event; an event that does not fit the place the generator is in does nothing. -/
def Forwarding.step (s : Forwarding) (event : StreamEvent) : Forwarding :=
  match s.phase, event with
  | .reading, .next =>
      match s.pending with
      | [] => s.finish o tracker .next
      | chunk :: pending => { s with pending, handed := s.handed ++ [chunk], phase := .yielded }
  | .reading, .timeoutError => s.finish o tracker .timeoutError
  | .reading, .cancelledError => s.finish o tracker .cancelledError
  | .reading, .httpError => s.finish o tracker .httpError
  | .yielded, .resume => { s with phase := .reading }
  | .yielded, .generatorExit => s.finish o tracker .generatorExit
  | _, _ => s

/-- A stream of `body` is told truthfully: what the client has is the front of it, and
a generator that has ended has released both resources and left one record, which says
`forwarded` only of the whole. -/
structure Forwarding.Truthful (body : List Bytes) (s : Forwarding) : Prop where
  handed : s.handed.flatten <+: body.flatten
  released : ∀ completion, s.phase = .ended completion →
    s.responseClosed = true ∧ s.clientClosed = true
  recorded : ∀ completion, s.phase = .ended completion → s.records.length = 1
  whole : ∀ record ∈ s.records, record.outcome = .forwarded → s.handed.flatten = body.flatten

/-- The client does not close the generator while bytes of the body are still to come. -/
def Forwarding.StaysForAll (s : Forwarding) (event : StreamEvent) : Prop :=
  ¬(s.phase = .yielded ∧ event = .generatorExit ∧ s.pending.flatten ≠ [])

/-! ### The invariant -/

variable {o tracker}

theorem complete_without_body (o : Observation) (tracker : Tracker) (outcome : Outcome) :
    ∃ record completion, o.complete tracker outcome none = (some record, completion) ∧
      record.outcome = outcome := by
  unfold Observation.complete Observation.taskIdFromResponse
  dsimp only
  split <;> exact ⟨_, _, rfl, rfl⟩

/-- The generator is running: nothing was dropped on the way, and nothing recorded. -/
structure Forwarding.Running (body : List Bytes) (s : Forwarding) : Prop where
  split : s.handed ++ s.pending = body
  open_ : s.completed = false
  unrecorded : s.records = []

/-- The generator has ended: on account of `event`, with what was handed over by then. -/
structure Forwarding.Ended (body : List Bytes) (event : StreamEvent) (s : Forwarding) : Prop where
  split : s.handed ++ s.pending = body
  phase : ∃ completion, s.phase = .ended completion
  responseClosed : s.responseClosed = true
  clientClosed : s.clientClosed = true
  record : ∃ record, s.records = [record] ∧ record.outcome = outcomeAt event

theorem Forwarding.Running.finish {body : List Bytes} {s : Forwarding} (h : s.Running body)
    (event : StreamEvent) : (s.finish o tracker event).Ended body event := by
  obtain ⟨record, completion, hcomplete, houtcome⟩ :=
    complete_without_body o tracker (outcomeAt event)
  have hfinish : s.finish o tracker event =
      { s with
        responseClosed := true, clientClosed := true, completed := true
        records := [record], phase := .ended completion } := by
    unfold Forwarding.finish
    rw [h.open_, hcomplete, h.unrecorded]
    rfl
  rw [hfinish]
  exact ⟨h.split, ⟨completion, rfl⟩, rfl, rfl, record, rfl, houtcome⟩

theorem Forwarding.step_of_ended {body : List Bytes} {event : StreamEvent} {s : Forwarding}
    (h : s.Ended body event) (event' : StreamEvent) : s.step o tracker event' = s := by
  obtain ⟨completion, hphase⟩ := h.phase
  unfold Forwarding.step
  rw [hphase]

/-- The state of a generator after any events: it runs, it has ended truthfully, or its
client has closed it before the end of the body. -/
inductive Forwarding.Reached (body : List Bytes) (s : Forwarding) : Prop
  | running (h : s.Running body) (hphase : s.phase = .reading ∨ s.phase = .yielded)
  | ended (event : StreamEvent) (h : s.Ended body event)
      (hwhole : outcomeAt event = .forwarded → s.pending.flatten = [])

theorem Forwarding.Reached.step {body : List Bytes} {s : Forwarding} (h : s.Reached body)
    {event : StreamEvent} (hstays : s.StaysForAll event) :
    (s.step o tracker event).Reached body := by
  cases h with
  | ended event' hended hwhole =>
      rw [Forwarding.step_of_ended hended]
      exact .ended event' hended hwhole
  | running hrunning hphase =>
      have hpending : ∀ event', (s.finish o tracker event').pending = s.pending := by
        intro event'
        unfold Forwarding.finish
        split <;> rfl
      unfold Forwarding.step
      split
      · split
        · rename_i hnil
          refine .ended .next (hrunning.finish .next) fun _ => ?_
          rw [hpending, hnil]
          rfl
        · rename_i chunk pending hcons
          refine .running ⟨?_, hrunning.open_, hrunning.unrecorded⟩ (.inr rfl)
          rw [← hrunning.split, hcons]
          simp
      · exact .ended .timeoutError (hrunning.finish _) fun h => nomatch h
      · exact .ended .cancelledError (hrunning.finish _) fun h => nomatch h
      · exact .ended .httpError (hrunning.finish _) fun h => nomatch h
      · exact .running ⟨hrunning.split, hrunning.open_, hrunning.unrecorded⟩ (.inl rfl)
      · rename_i hyielded
        refine .ended .generatorExit (hrunning.finish _) fun _ => ?_
        rw [hpending]
        by_contra hleft
        exact hstays ⟨hyielded, rfl, hleft⟩
      · exact .running hrunning hphase

theorem Forwarding.Reached.truthful {body : List Bytes} {s : Forwarding} (h : s.Reached body) :
    s.Truthful body := by
  cases h with
  | running hrunning hphase =>
      have hnot : ∀ completion, s.phase ≠ .ended completion := by
        intro completion hended
        rcases hphase with hphase | hphase
        · cases hphase.symm.trans hended
        · cases hphase.symm.trans hended
      refine ⟨?_, fun c hc => absurd hc (hnot c), fun c hc => absurd hc (hnot c), ?_⟩
      · rw [← hrunning.split, List.flatten_append]
        exact List.prefix_append _ _
      · rw [hrunning.unrecorded]
        intro record hrecord
        cases hrecord
  | ended event hended hwhole =>
      obtain ⟨record, hrecords, houtcome⟩ := hended.record
      refine ⟨?_, fun _ _ => ⟨hended.responseClosed, hended.clientClosed⟩, fun _ _ => ?_, ?_⟩
      · rw [← hended.split, List.flatten_append]
        exact List.prefix_append _ _
      · rw [hrecords]
        rfl
      · intro record' hmem hforwarded
        rw [hrecords, List.mem_singleton] at hmem
        subst hmem
        rw [← hended.split, List.flatten_append, hwhole (houtcome.symm.trans hforwarded),
          List.append_nil]

theorem reached_start (body : List Bytes) : (Forwarding.start body).Reached body :=
  .running ⟨rfl, rfl, rfl⟩ (.inl rfl)

/-- Once the client has left early, the record is wrong for good. -/
theorem not_truthful_of_leaves {body : List Bytes} {s : Forwarding} (h : s.Reached body)
    {event : StreamEvent} (hleaves : ¬s.StaysForAll event) (events : List StreamEvent) :
    ¬(run (Forwarding.step o tracker) s (event :: events)).Truthful body := by
  obtain ⟨hyielded, rfl, hleft⟩ := not_not.mp hleaves
  have hrunning : s.Running body := by
    cases h with
    | running hrunning _ => exact hrunning
    | ended event hended _ =>
        obtain ⟨completion, hphase⟩ := hended.phase
        cases hphase.symm.trans hyielded
  have hstep : s.step o tracker .generatorExit = s.finish o tracker .generatorExit := by
    unfold Forwarding.step
    rw [hyielded]
  have hended : (s.finish o tracker .generatorExit).Ended body .generatorExit :=
    hrunning.finish .generatorExit
  have hrun : run (Forwarding.step o tracker) (s.finish o tracker .generatorExit) events =
      s.finish o tracker .generatorExit :=
    run_invariant (I := fun s' => s' = s.finish o tracker .generatorExit)
      (fun s' event' hs' => by rw [hs', Forwarding.step_of_ended hended]) rfl events
  rw [run_cons, hstep, hrun]
  intro htruthful
  obtain ⟨record, hrecords, houtcome⟩ := hended.record
  have hwhole := htruthful.whole record (by rw [hrecords]; exact List.mem_singleton_self _) houtcome
  rw [← hended.split, List.flatten_append] at hwhole
  have hnil := List.self_eq_append_right.mp hwhole
  have hpending : (s.finish o tracker .generatorExit).pending = s.pending := by
    unfold Forwarding.finish
    split <;> rfl
  rw [hpending] at hnil
  exact hleft hnil

theorem truthful_iff_of_reached {body : List Bytes} {s : Forwarding} (h : s.Reached body)
    (events : List StreamEvent) :
    (run (Forwarding.step o tracker) s events).Truthful body ↔
      Along (Forwarding.step o tracker) Forwarding.StaysForAll s events := by
  induction events generalizing s with
  | nil => exact ⟨fun _ => trivial, fun _ => h.truthful⟩
  | cons event events ih =>
      by_cases hstays : s.StaysForAll event
      · rw [run_cons, ih (h.step hstays)]
        exact ⟨fun hrest => ⟨hstays, hrest⟩, And.right⟩
      · constructor
        · intro htruthful
          exact absurd htruthful (not_truthful_of_leaves h hstays events)
        · exact fun halong => absurd halong.1 hstays

end

/-- A proxied stream is told truthfully just when its client never closes the generator
at a `yield` with bytes of the body still to come. -/
theorem stream_truthful_iff (o : Observation) (tracker : Tracker) (body : List Bytes)
    (events : List StreamEvent) :
    (run (Forwarding.step o tracker) (.start body) events).Truthful body ↔
      Along (Forwarding.step o tracker) Forwarding.StaysForAll (.start body) events :=
  truthful_iff_of_reached (reached_start body) events

/-- Observation without an observer, where no text is JSON. -/
def unobserved : Observation :=
  { loads := fun _ => .error .valueError, sha256 := fun _ => "", observer := none }

/-- A client that leaves after the first of two chunks is recorded as served. -/
theorem closed_at_yield_recorded_forwarded :
    ¬(run (Forwarding.step unobserved
        { transport := "JSONRPC", requestMethod := .text "SendStreamingMessage", requestHash := ""
          upstream := "http://upstream".toList })
      (.start [[1], [2]]) [.next, .generatorExit]).Truthful [[1], [2]] := by
  intro h
  have hwhole := h.whole _ (List.mem_singleton_self _) rfl
  exact absurd hwhole (by decide)

end Kin.Gateway
