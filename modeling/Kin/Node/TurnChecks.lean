import Kin.Node.Budget
import Kin.Node.NextEnvelope

/-!
What a turn writes before its message and what ingestion reads. The adapter call is paid
for, activity events are appended, approvals and artifacts are stored; none of it is read by
the checks of ingestion, so these can be evaluated before the turn.
-/

namespace Kin.Node

open Kin.Py Kin.Lib Kin.Schemas Kin.Session Kin.Storage Kin.Audit Kin.Artifacts Kin.Policy
  Kin.Transport

/-- The session keeps its row up to the counters, and gets events that carry no number and
count for no turn. -/
structure Prepares (sid : String) (db db' : Db) : Prop where
  row : ∀ row, db.session? sid = some row → ∃ cost bytes, db'.session? sid =
    some { row with cumulativeCostEstimate := cost, cumulativeArtifactBytes := bytes }
  events : ∃ added, db'.eventsOf sid = db.eventsOf sid ++ added ∧
    ∀ event ∈ added, event.sequence = none ∧ countsAsTurn event = false

namespace Prepares

variable {sid : String} {db db' : Db}

theorem of_row (hrow : db'.session? sid = db.session? sid)
    (hevents : db'.eventsOf sid = db.eventsOf sid) : Prepares sid db db' where
  row row h := ⟨row.cumulativeCostEstimate, row.cumulativeArtifactBytes, hrow.trans h⟩
  events := ⟨[], by rw [hevents, List.append_nil], fun _ hmem => by cases hmem⟩

theorem refl (sid : String) (db : Db) : Prepares sid db db := of_row rfl rfl

theorem trans {a b c : Db} (hab : Prepares sid a b) (hbc : Prepares sid b c) :
    Prepares sid a c where
  row row h := by
    obtain ⟨_, _, hb⟩ := hab.row row h
    obtain ⟨cost, bytes, hc⟩ := hbc.row _ hb
    exact ⟨cost, bytes, hc⟩
  events := by
    obtain ⟨added, heq, hadded⟩ := hab.events
    obtain ⟨added', heq', hadded'⟩ := hbc.events
    refine ⟨added ++ added', by rw [heq', heq, List.append_assoc], fun event hmem => ?_⟩
    rcases List.mem_append.mp hmem with h | h
    · exact hadded event h
    · exact hadded' event h

theorem of_sameTables (h : SameTables db db') : Prepares sid db db' := by
  obtain ⟨_, rfl⟩ := h
  exact of_row rfl rfl

theorem of_update {f : SessionRow → SessionRow} (hsid : ∀ row, (f row).sessionId = row.sessionId)
    (hf : ∀ row, ∃ cost bytes,
      f row = { row with cumulativeCostEstimate := cost, cumulativeArtifactBytes := bytes }) :
    Prepares sid db (db.updateSession sid f) where
  row row h := by
    obtain ⟨cost, bytes, heq⟩ := hf row
    refine ⟨cost, bytes, ?_⟩
    rw [session?_updateSession_self hsid, h, Option.map_some, heq]
  events := ⟨[], by rw [List.append_nil]; rfl, fun _ hmem => by cases hmem⟩

theorem of_cost (db : Db) : Prepares sid db (db.updateSession sid addCost) :=
  of_update addCost_sessionId fun row => ⟨_, row.cumulativeArtifactBytes, rfl⟩

/-! ### The stages of a turn -/

section Stages

variable {sender : Sender} {agentId : String} {turn : Turn}

theorem of_activities (events : List AdapterEvent) {exit : Except PyExc Unit}
    (h : appendActivities sender sid agentId db events = (db', exit)) : Prepares sid db db' := by
  induction events generalizing db with
  | nil =>
      cases h
      exact refl sid _
  | cons event events ih =>
      cases event with
      | activity label =>
          have hone : Prepares sid db (appendSessionEvent sender.ext db
              (activityEvent sender sid agentId label)).1 := by
            rcases appendSessionEvent_cases sender.ext db (activityEvent sender sid agentId label)
              with ⟨⟨rows, happ⟩, -⟩ | ⟨hsame, -⟩
            · rw [happ]
              exact ⟨fun row hrow => ⟨_, _, hrow⟩, [eventRow db _],
                eventsOf_addEvent_self db (activityEvent sender sid agentId label),
                fun event hmem => by rw [List.mem_singleton.mp hmem]; exact ⟨rfl, rfl⟩⟩
            · exact of_sameTables hsame
          unfold appendActivities at h
          split at h
          · rename_i heq
            cases h
            rw [heq] at hone
            exact hone
          · rename_i heq
            rw [heq] at hone
            exact hone.trans (ih h)
      | approvalRequest approvalId requestSession actionClass expiresAt => exact ih h
      | other => exact ih h

theorem of_requests (events : List AdapterEvent)
    (h : gateApprovals sender sid agentId turn db events = .ok db') : Prepares sid db db' := by
  induction events generalizing db with
  | nil =>
      cases h
      exact refl sid _
  | cons event events ih =>
      cases event with
      | activity label => exact ih h
      | other => exact ih h
      | approvalRequest approvalId requestSession actionClass expiresAt =>
          have hevaluate : Prepares sid db (evaluateAction turn db actionClass).1 := of_row rfl rfl
          unfold gateApprovals at h
          dsimp only at h
          split at h
          · cases h
          · exact hevaluate.trans (ih h)
          · exact hevaluate.trans ((of_sameTables (sameTables_writeAuditEvent ..)).trans (ih h))
          · cases h

theorem of_message (h : gateMessage sender sid agentId turn db = .ok db') :
    Prepares sid db db' := by
  unfold gateMessage at h
  split at h
  · cases h
    exact refl sid db
  dsimp only at h
  split at h
  · cases h
  · cases h
    exact of_row rfl rfl
  · cases h
  · cases h

theorem of_artifacts (maxBytes : Int) (arts : List AdapterArtifact)
    (h : storeArtifacts sender sid maxBytes db arts = .ok db') : Prepares sid db db' := by
  induction arts generalizing db with
  | nil =>
      cases h
      exact refl sid _
  | cons art arts ih =>
      unfold storeArtifacts at h
      split at h
      · rename_i stored row hstore
        obtain ⟨artifacts, rfl⟩ := storeArtifact_ok hstore
        rw [incrementSessionArtifactBytes_eq] at h
        have hvault : Prepares sid db (db.withArtifacts artifacts) := of_row rfl rfl
        exact (hvault.trans (of_update (addBytes_sessionId _)
          fun row => ⟨row.cumulativeCostEstimate, _, rfl⟩)).trans (ih h)
      · cases h

/-- A turn that gets past its gates has touched nothing that ingestion checks. -/
theorem of_cleared {card : AgentRow} (h : cleared? sender sid agentId turn db card = some db') :
    Prepares sid db db' := by
  unfold cleared? at h
  split at h
  · cases h
  cases happend : appendActivities sender sid agentId db turn.response.events with
  | mk db1 exit =>
  rw [happend] at h
  cases exit with
  | error e => cases h
  | ok _ =>
  dsimp only at h
  cases hrequests : gateApprovals sender sid agentId turn db1 turn.response.events with
  | error result =>
      rw [hrequests] at h
      cases h
  | ok db2 =>
  rw [hrequests] at h
  dsimp only at h
  cases hmessage : gateMessage sender sid agentId turn db2 with
  | error result =>
      rw [hmessage] at h
      cases h
  | ok db3 =>
  rw [hmessage] at h
  dsimp only at h
  cases hstore : storeArtifacts sender sid (cardMaxBytes card) db3
      turn.response.artifacts with
  | error result =>
      rw [hstore] at h
      cases h
  | ok db4 =>
      rw [hstore] at h
      cases h
      exact (((of_activities _ happend).trans (of_requests _ hrequests)).trans
        (of_message hmessage)).trans (of_artifacts _ _ hstore)

end Stages

/-! ### The checks -/

theorem countP_eq (h : Prepares sid db db') :
    (db'.eventsOf sid).countP countsAsTurn = (db.eventsOf sid).countP countsAsTurn := by
  obtain ⟨added, heq, hadded⟩ := h.events
  have hnone : added.countP countsAsTurn = 0 :=
    List.countP_eq_zero.mpr fun event hmem => by rw [(hadded event hmem).2]; exact Bool.false_ne_true
  rw [heq, List.countP_append, hnone, Nat.add_zero]

theorem eventSequences_eq (h : Prepares sid db db') :
    eventSequences (db'.eventsOf sid) = eventSequences (db.eventsOf sid) := by
  obtain ⟨added, heq, hadded⟩ := h.events
  have hskip : ∀ (sequences : Dict String Int) (l : List SessionEventRow),
      (∀ event ∈ l, event.sequence = none) → l.foldl recordSequence sequences = sequences := by
    intro sequences l hl
    induction l with
    | nil => rfl
    | cons event l ih =>
        rw [List.foldl_cons, recordSequence, hl event List.mem_cons_self]
        exact ih fun other hmem => hl other (List.mem_cons_of_mem _ hmem)
  unfold eventSequences
  rw [heq, List.foldl_append, hskip _ _ fun event hmem => (hadded event hmem).1]

theorem nextSequence_eq (h : Prepares sid db db') (actor : String) :
    nextSequence db' sid actor = nextSequence db sid actor := by
  obtain ⟨added, heq, hadded⟩ := h.events
  have hnone : (added.filter fun e => e.actorUsername == actor).filterMap (·.sequence) = [] :=
    List.filterMap_eq_nil_iff.mpr fun event hmem => (hadded event (List.mem_of_mem_filter hmem)).1
  unfold nextSequence
  rw [heq, List.filter_append, List.filterMap_append, hnone, List.append_nil]

variable {ctx : IngestContext} {raw : Fields} {row : SessionRow}

theorem verified?_eq (h : Prepares sid db db') (hrow : db.session? sid = some row)
    (hsid : rawSessionId raw = .text sid) : verified? ctx db' raw = verified? ctx db raw := by
  obtain ⟨cost, bytes, hrow'⟩ := h.row row hrow
  unfold verified?
  cases hhash : (rawActorUsername raw).hashable with
  | false => simp [openSession, sessionKey, hsid, sqlText, hrow, hrow', hhash]
  | true => simp [openSession, sessionKey, hsid, sqlText, hrow, hrow', hhash, participantMap]

theorem turnedDown_eq (h : Prepares sid db db') (hrow : db.session? sid = some row)
    (hsid : rawSessionId raw = .text sid) : turnedDown ctx db' raw = turnedDown ctx db raw := by
  obtain ⟨cost, bytes, hrow'⟩ := h.row row hrow
  unfold turnedDown
  rw [h.verified?_eq hrow hsid]
  cases hver : verified? ctx db raw with
  | none => rfl
  | some envelope =>
      have hesid : envelope.sessionId = sid :=
        PyStr.text.inj (Json.str.inj ((readFrom_of_verified hver).sessionId.symm.trans hsid))
      dsimp only
      rw [hesid, hrow, hrow']
      simp only [Option.any_some, advanceToReview_eq, stateOf, h.countP_eq, h.eventSequences_eq]
      rfl

end Prepares

end Kin.Node
