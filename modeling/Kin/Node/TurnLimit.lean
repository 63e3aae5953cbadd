import Kin.Node.Activity
import Kin.Transport.Refinement

/-!
The turn limit of a session. It is read from the payload of the request, kept
between one and twelve, and never written again; the turns themselves are counted
from the log each time the state is reconstructed, and the reducer refuses the
envelope that would exceed the limit.
-/

namespace Kin.Node

open Kin.Py Kin.Lib Kin.Schemas Kin.Session Kin.Storage Kin.Audit Kin.Transport

/-- A call of `ingest_envelope` on the database. -/
def ingestCall (db : Db) (call : IngestContext × Fields) : Db :=
  (ingestEnvelope call.1 db call.2).db

/-- The stored events of a session whose kind is in `TURN_CONSUMING_KINDS`. -/
def turnsStored (db : Db) (sid : String) : Nat := (db.eventsOf sid).countP countsAsTurn

structure TurnLimited (db : Db) : Prop where
  log : LogInvariant db
  range : ∀ sid row, db.session? sid = some row → 1 ≤ row.turnLimit ∧ row.turnLimit ≤ 12
  turns : ∀ sid row, db.session? sid = some row → turnsStored db sid ≤ row.turnLimit

variable {commits : IngestContext → Db → SessionEnvelope → Prop} {db db' : Db}

/-- A kind that takes a turn leads to a status, and ends no session. -/
theorem target_of_turnConsuming {kind : MessageKind} (h : turnConsuming kind = true) :
    ∃ status, peerKindTransition kind = some status ∧ isTerminalState status = false := by
  cases kind <;> first | exact ⟨_, rfl, rfl⟩ | cases h

/-- An accepted envelope that takes a turn finds one left. -/
theorem turn_left_of_accepts {ctx : IngestContext} {raw : Fields} {envelope : SessionEnvelope}
    {base : Db} {stored : SessionRow} {state : SessionState}
    {participants : Dict String ParticipantInfo} (h : TurnLimited db)
    (haccepts : Accepts ctx db raw envelope base stored state participants)
    (hturn : turnConsuming envelope.kind = true) :
    turnsStored db envelope.sessionId < stored.turnLimit := by
  have hcheck := checkTurn_eq_none.mp haccepts.admitted.turn hturn
  have hlive : isTerminalState (targetStatus (advanceToReview state envelope.kind) envelope.kind) =
      false := by
    obtain ⟨status, hstatus, hlive⟩ := target_of_turnConsuming hturn
    rw [targetStatus, hstatus]
    exact hlive
  rw [hlive, advanceToReview_eq] at hcheck
  have hlimit := hcheck.resolve_right Bool.false_ne_true
  cases haccepts.loaded with
  | stored hrow =>
      have hrange := (h.range _ _ hrow).1
      simp only [stateOf] at hlimit
      rw [if_neg (by omega)] at hlimit
      exact Int.ofNat_lt.mp hlimit
  | created hnone _ hcreates _ =>
      rw [turnsStored, h.log.stored _ hnone]
      exact (newRow_of_creates hcreates).turnLimit_pos

theorem TurnLimited.range_of_change (h : TurnLimited db)
    (hchange : Change commits False (fun _ => False) db db') {sid : String} {row' : SessionRow}
    (hrow' : db'.session? sid = some row') : 1 ≤ row'.turnLimit ∧ row'.turnLimit ≤ 12 := by
  cases hrow : db.session? sid with
  | some row =>
      obtain ⟨row'', hrow'', hterms, -⟩ := KeepsRow.of_change hchange sid row hrow
      cases hrow'.symm.trans hrow''
      rw [hterms.turnLimit]
      exact h.range sid row hrow
  | none =>
      obtain ⟨ctx, raw, envelope, row, -, -, hcreates, -, hterms⟩ := hchange.opened hrow hrow'
      have hnew := newRow_of_creates hcreates
      rw [hterms.turnLimit]
      exact ⟨hnew.turnLimit_pos, hnew.turnLimit_le⟩

/-- One move of a call keeps the limits. -/
theorem TurnLimited.of_move {ext : Externals} {now : Instant} (h : TurnLimited db)
    (hmove : Transport.Move ext now commits db db') : TurnLimited db' := by
  have hchange : Change commits False (fun _ => False) db db' := .move (.ingest hmove)
  refine ⟨hchange.logInvariant h.log, fun sid row' => h.range_of_change hchange,
    fun sid row' hrow' => ?_⟩
  -- where no event is added, the turns are those from before
  have hkept : db'.eventsOf sid = db.eventsOf sid → turnsStored db' sid ≤ row'.turnLimit := by
    intro hevents
    rw [turnsStored, hevents]
    cases hrow : db.session? sid with
    | some row =>
        obtain ⟨row'', hrow'', hterms, -⟩ := KeepsRow.of_change hchange sid row hrow
        cases hrow'.symm.trans hrow''
        rw [hterms.turnLimit]
        exact h.turns sid row hrow
    | none =>
        rw [h.log.stored sid hrow]
        exact Nat.zero_le _
  cases hmove with
  | expire hexp =>
      apply hkept
      rcases hexp with hsame | ⟨_, _, -, -, hw⟩
      · exact hsame.eventsOf sid
      · rw [SameTables.eventsOf hw]
        rfl
  | create _ _ _ _ _ => exact hkept rfl
  | @commit ctx _ base _ raw envelope stored state participants _ _ _ haccepts hcommits =>
      by_cases hsid : sid = envelope.sessionId
      · subst hsid
        have hrow := hcommits.session?_self haccepts.loaded.base_session?
        cases hrow'.symm.trans hrow
        change turnsStored db' envelope.sessionId ≤ (acceptedRow envelope stored).turnLimit
        rw [turnsStored, (counted_of_commits hcommits).1, haccepts.loaded.base_eventsOf,
          (sameTerms_acceptedRow envelope stored).1.turnLimit]
        by_cases hturn : turnConsuming envelope.kind = true
        · have hleft := turn_left_of_accepts h haccepts hturn
          rw [if_pos hturn]
          exact hleft
        · rw [if_neg hturn, Nat.add_zero]
          cases haccepts.loaded with
          | stored hstored => exact h.turns _ _ hstored
          | created hnone _ _ _ =>
              rw [h.log.stored _ hnone]
              exact Nat.zero_le _
      · apply hkept
        rw [hcommits.eventsOf_of_ne hsid, haccepts.loaded.base_eventsOf]
  | store hstores =>
      apply hkept
      rw [Db.eventsOf, hstores.sessionEvents, Db.eventsOf]

theorem turnLimited_ingestCall (h : TurnLimited db) (call : IngestContext × Fields) :
    TurnLimited (ingestCall db call) := by
  have hmoves := ingestEnvelope_moves call.1 db call.2
  rw [ingestCall]
  generalize (ingestEnvelope call.1 db call.2).db = after at hmoves
  induction hmoves with
  | refl => exact h
  | tail _ hlast ih => exact ih.of_move hlast

/-- A call leaves the limit of a stored session alone. -/
theorem turnLimit_ingestCall (call : IngestContext × Fields) {sid : String} {row : SessionRow}
    (hrow : db.session? sid = some row) :
    ∃ row', (ingestCall db call).session? sid = some row' ∧ row'.turnLimit = row.turnLimit := by
  have hchain : Changes (fun _ _ _ => True) False (fun _ => False) db (ingestCall db call) :=
    ingestEnvelope_changes (permits_true fun _ _ => True) trivial db
  obtain ⟨row', hrow', hterms⟩ := SameTerms.of_changes hchain hrow
  exact ⟨row', hrow', hterms.turnLimit⟩

theorem turnLimit_run (calls : List (IngestContext × Fields)) {sid : String} {row : SessionRow}
    (hrow : db.session? sid = some row) :
    ∃ row', (run ingestCall db calls).session? sid = some row' ∧ row'.turnLimit = row.turnLimit := by
  induction calls generalizing db row with
  | nil => exact ⟨row, hrow, rfl⟩
  | cons call calls ih =>
      obtain ⟨next, hnext, hlimit⟩ := turnLimit_ingestCall call hrow
      obtain ⟨last, hlast, hlimit'⟩ := ih hnext
      exact ⟨last, hlast, hlimit'.trans hlimit⟩

theorem turnLimited_fresh (identity : Option String) (contacts : List ContactRow)
    (agents : List AgentRow) : TurnLimited (Db.fresh identity contacts agents) where
  log := logInvariant_fresh identity contacts agents
  range := fun _ _ h => by cases h
  turns := fun _ _ h => by cases h

/-- In every run of `ingest_envelope` on a new database, whatever the bodies and
their contexts: each session has a turn limit between one and twelve, has stored no
more turns than that, and keeps its limit in every continuation of the run. -/
theorem turn_limit_kept (identity : Option String) (contacts : List ContactRow)
    (agents : List AgentRow) (calls : List (IngestContext × Fields)) (sid : String)
    (row : SessionRow) :
    let db := run ingestCall (Db.fresh identity contacts agents) calls
    db.session? sid = some row →
      (1 ≤ row.turnLimit ∧ row.turnLimit ≤ 12) ∧ turnsStored db sid ≤ row.turnLimit ∧
      ∀ later, ∃ row', (run ingestCall db later).session? sid = some row' ∧
        row'.turnLimit = row.turnLimit := by
  intro db hrow
  have hlimited : TurnLimited db := by
    refine run_invariant (I := TurnLimited) (fun before call h => ?_)
      (turnLimited_fresh identity contacts agents) calls
    exact turnLimited_ingestCall h call
  exact ⟨hlimited.range sid row hrow, hlimited.turns sid row hrow, fun later => turnLimit_run later hrow⟩

namespace Sample

open Kin.Transport.Sample

def oneTurn : List (IngestContext × Fields) :=
  [(context, envelope "s1" "alice" "scout" 1 .taskRequest (request ++ [(.text "max_turns", .int 1)])),
   (context, envelope "s1" "bob" "bot" 1 .acceptance [(.text "accepting_agent_id", .text "bot")]),
   (context, envelope "s1" "alice" "scout" 2 .proposal [(.text "text", .text "first")])]

end Sample

/-- The proposal is not stored. -/
theorem turn_limit_kept_oneTurn :
    ∃ row, (run ingestCall Transport.Sample.bobDb Sample.oneTurn).session? "s1" = some row ∧
      row.status = .accepted ∧ turnsStored (run ingestCall Transport.Sample.bobDb Sample.oneTurn) "s1" ≤
        row.turnLimit ∧ row.turnLimit = 1 := by
  obtain ⟨row, hrow, hfacts⟩ := (Option.any_eq_true _ _).mp
    (show ((run ingestCall Transport.Sample.bobDb Sample.oneTurn).session? "s1").any (fun row =>
      row.status == .accepted && row.turnLimit == 1) = true by decide +kernel)
  simp only [Bool.and_eq_true, beq_iff_eq] at hfacts
  exact ⟨row, hrow, hfacts.1,
    (turn_limit_kept (some "bob") [] [] Sample.oneTurn "s1" row hrow).2.1, hfacts.2⟩

end Kin.Node
