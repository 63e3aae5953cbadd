import Kin.Node.Authenticity
import Kin.Node.Redelivery
import Kin.Transport.AgentCheck

/-!
The agent a node has on record for the other owner of a session. The row of a
session is opened with the agent of the request, and an acceptance writes the
receiver's; a `PARTICIPANT_CHANGED` is stored like any other message and writes
neither column. A handoff on the node itself is for its own owner.
-/

namespace Kin.Node

open Kin.Py Kin.Lib Kin.Schemas Kin.Session Kin.Storage Kin.Audit Kin.Transport

variable {commits : IngestContext → Db → SessionEnvelope → Prop} {spending : Prop}
  {my username sid : String} {db db' : Db} {row row' : SessionRow} {envelope : SessionEnvelope}

def agentColumnOf (row : SessionRow) (username : String) : Option String :=
  if username = row.receiverUsername then row.receiverAgentId else row.senderAgentId

theorem registeredAgent_eq (row : SessionRow) (username : String) :
    registeredAgent row username = textOr (agentColumnOf row username) username := by
  unfold registeredAgent agentColumnOf
  split <;> rfl

/-! ### The sessions of a node -/

/-- The node is `my`'s: each of its sessions has `my` on one of its sides, and
the events of a session are by its two names. -/
structure OwnedBy (my : String) (db : Db) : Prop where
  mine : db.myUsername = my
  party : ∀ sid row, db.session? sid = some row →
    row.initiatorUsername = my ∨ row.receiverUsername = my
  member : ∀ event ∈ db.sessionEvents, event.sequence.isSome = true →
    ∃ row, db.session? event.sessionId = some row ∧
      (event.actorUsername = row.initiatorUsername ∨ event.actorUsername = row.receiverUsername)

theorem ownedBy_fresh (my : String) (contacts : List ContactRow) (agents : List AgentRow) :
    OwnedBy my (Db.fresh (some my) contacts agents) where
  mine := rfl
  party := fun _ _ h => by cases h
  member := fun _ h => by cases h

/-- A session opened on the node is the node's own. -/
theorem party_of_creates {ctx : IngestContext} (h : Creates ctx db envelope row) :
    row.initiatorUsername = db.myUsername ∨ row.receiverUsername = db.myUsername := by
  by_cases hactor : envelope.actorUsername = db.myUsername
  · left
    rw [(newRow_of_creates h).initiator, hactor]
  · right
    apply receiverUsername_of_creates h
    rw [receiverOf, if_neg hactor]
    rfl

theorem OwnedBy.of_change {handing : String → Prop} (hname : my ≠ "") (h : OwnedBy my db)
    (hchange : Change commits spending handing db db') : OwnedBy my db' := by
  have hnamed : ∀ sid row, db.session? sid = some row →
      row.initiatorUsername ≠ "" ∨ row.receiverUsername ≠ "" := by
    intro sid row hrow
    rcases h.party sid row hrow with hmy | hmy
    · exact .inl (hmy ▸ hname)
    · exact .inr (hmy ▸ hname)
  refine ⟨?_, fun sid row' hrow' => ?_, hchange.member hnamed h.member⟩
  · rw [Db.myUsername, hchange.identity]
    exact h.mine
  · cases hrow : db.session? sid with
    | some row =>
        obtain ⟨row'', hrow'', hterms, -⟩ := KeepsRow.of_change hchange sid row hrow
        rw [hrow'] at hrow''
        cases hrow''
        rw [hterms.initiatorUsername, hterms.receiverUsername]
        exact h.party sid row hrow
    | none =>
        obtain ⟨ctx, raw, envelope, row, -, -, hcreates, -, hterms⟩ := hchange.opened hrow hrow'
        rw [hterms.initiatorUsername, hterms.receiverUsername, ← h.mine]
        exact party_of_creates hcreates

theorem OwnedBy.of_activity (hname : my ≠ "") (h : OwnedBy my db) (activity : Activity) :
    OwnedBy my (activity.step db) := by
  have hchain : Changes (fun _ _ _ => True) True (fun _ => True) db (activity.step db) :=
    activity_changes db activity (permits_true _) fun _ _ => trivial
  generalize activity.step db = after at hchain
  induction hchain with
  | refl => exact h
  | tail _ hlast ih => exact ih.of_change hname hlast

theorem sameTerms_of_activity (activity : Activity) (hrow : db.session? sid = some row) :
    ∃ row', (activity.step db).session? sid = some row' ∧ SameTerms row row' := by
  have hchain : Changes (fun _ _ _ => True) True (fun _ => True) db (activity.step db) :=
    activity_changes db activity (permits_true _) fun _ _ => trivial
  exact SameTerms.of_changes hchain hrow

theorem OwnedBy.member_of_delivered {ctx : IngestContext} {raw : Fields}
    (h : OwnedBy my (ingestEnvelope ctx db raw).db) (hdelivered : Delivered ctx db raw)
    (hvalid : validateEnvelope raw = some envelope) :
    ∃ row, (ingestEnvelope ctx db raw).db.session? envelope.sessionId = some row ∧
      (envelope.actorUsername = row.initiatorUsername ∨
        envelope.actorUsername = row.receiverUsername) := by
  obtain ⟨envelope', event, hver, hstored, -⟩ := stored_of_delivered hdelivered
  have hsame : envelope = envelope' :=
    Option.some.inj (hvalid.symm.trans (validateEnvelope_of_verified hver))
  subst hsame
  rw [storedEvent?] at hstored
  have hfound := List.find?_some hstored
  simp only [Bool.and_eq_true, beq_iff_eq] at hfound
  obtain ⟨⟨hsid, hactor⟩, hnumber⟩ := hfound
  have hmem := h.member event (List.mem_of_find?_eq_some hstored) (by rw [hnumber]; rfl)
  rw [hsid, hactor] at hmem
  exact hmem

/-! ### The other owner's column -/

def acceptances (db : Db) (sid : String) : Nat :=
  (db.eventsOf sid).countP fun e => decide (e.kind = .message .acceptance)

theorem eventsOf_grows (h : db.sessionEvents <+: db'.sessionEvents) (sid : String) :
    db.eventsOf sid <+: db'.eventsOf sid := by
  obtain ⟨later, hlater⟩ := h
  rw [Db.eventsOf, Db.eventsOf, ← hlater, List.filter_append]
  exact List.prefix_append ..

theorem acceptances_le (h : db.sessionEvents <+: db'.sessionEvents) (sid : String) :
    acceptances db sid ≤ acceptances db' sid :=
  (eventsOf_grows h sid).sublist.countP_le

theorem agentColumnOf_setAgent_self (hmember : username ≠ my)
    (hparty : row.initiatorUsername = my ∨ row.receiverUsername = my)
    (hactor : username = row.initiatorUsername ∨ username = row.receiverUsername)
    (agentId : String) :
    agentColumnOf (setAgent (decide (my = row.initiatorUsername)) agentId row) username =
      agentColumnOf row username := by
  by_cases hmy : my = row.initiatorUsername
  · have hreceiver : username = row.receiverUsername :=
      hactor.resolve_left fun h => hmember (h.trans hmy.symm)
    rw [decide_eq_true hmy, agentColumnOf, agentColumnOf]
    exact (if_pos hreceiver).trans (if_pos hreceiver).symm
  · have hreceiver : username ≠ row.receiverUsername := by
      intro h
      exact hmember (h.trans (hparty.resolve_left fun h' => hmy h'.symm))
    rw [decide_eq_false hmy, agentColumnOf, agentColumnOf]
    exact (if_neg hreceiver).trans (if_neg hreceiver).symm

/-- One change writes the other owner's column with an acceptance only. -/
theorem RowChange.agentColumnOf (hother : username ≠ my)
    (hparty : row.initiatorUsername = my ∨ row.receiverUsername = my)
    (hactor : username = row.initiatorUsername ∨ username = row.receiverUsername)
    (h : RowChange spending (· = my) db db' sid row row')
    (hnone : acceptances db' sid = acceptances db sid) :
    agentColumnOf row' username = agentColumnOf row username := by
  cases h with
  | same => rfl
  | status status now => rfl
  | committed envelope status now before hstored =>
      have hkind : envelope.kind ≠ .acceptance := by
        intro hkind
        have hle := hstored.sublist.countP_le (p := fun e => decide (e.kind = .message .acceptance))
        have hone : [eventRow before (envelopeEvent envelope now)].countP
            (fun e => decide (e.kind = .message .acceptance)) = 1 := by
          simp [eventRow, envelopeEvent, hkind]
        rw [List.countP_append, hone] at hle
        rw [acceptances, acceptances] at hnone
        omega
      rw [acceptedRow, if_neg hkind]
      rfl
  | bytes n => rfl
  | cost h => rfl
  | agent name agentId h =>
      rw [show name = my from h]
      exact agentColumnOf_setAgent_self hother hparty hactor agentId

/-- What became of the other owner's side of a session since `db`. -/
structure Recorded (my username sid : String) (db : Db) (row : SessionRow) (db' : Db) : Prop where
  owned : OwnedBy my db'
  grown : db.sessionEvents <+: db'.sessionEvents
  column : ∃ row', db'.session? sid = some row' ∧ SameTerms row row' ∧
    (acceptances db' sid = acceptances db sid →
      agentColumnOf row' username = agentColumnOf row username)

theorem Recorded.refl (h : OwnedBy my db) (hrow : db.session? sid = some row) :
    Recorded my username sid db row db :=
  ⟨h, List.prefix_rfl, row, hrow, .refl row, fun _ => rfl⟩

theorem Recorded.of_change {after : Db} (hname : my ≠ "") (hother : username ≠ my)
    (hactor : username = row.initiatorUsername ∨ username = row.receiverUsername)
    (h : Recorded my username sid db row db')
    (hchange : Change commits spending (· = my) db' after) :
    Recorded my username sid db row after := by
  have hgrown := hchange.sessionEvents_prefix
  obtain ⟨row', hrow', hterms, hcolumn⟩ := h.column
  obtain ⟨row'', hrow'', hstep⟩ := hchange.rowChange hrow'
  refine ⟨h.owned.of_change hname hchange, h.grown.trans hgrown, row'', hrow'',
    hterms.trans hstep.sameTerms.1, fun hnone => ?_⟩
  have hle := acceptances_le h.grown sid
  have hle' := acceptances_le hgrown sid
  rw [← hterms.initiatorUsername, ← hterms.receiverUsername] at hactor
  rw [hstep.agentColumnOf hother (h.owned.party sid row' hrow') hactor (by omega)]
  exact hcolumn (by omega)

/-- Whatever the node does in its owner's name, the other owner's column is
written by acceptances only. -/
theorem Recorded.of_activity (hname : my ≠ "") (hother : username ≠ my)
    (hactor : username = row.initiatorUsername ∨ username = row.receiverUsername)
    (h : Recorded my username sid db row db') (activity : Activity)
    (hhands : ∀ name, activity.hands name → name = my) :
    Recorded my username sid db row (activity.step db') := by
  have hchain : Changes (fun _ _ _ => True) True (· = my) db' (activity.step db') :=
    activity_changes db' activity (permits_true _) hhands
  generalize activity.step db' = after at hchain
  induction hchain with
  | refl => exact h
  | tail _ hlast ih => exact ih.of_change hname hother hactor hlast

/-! ### The check of an envelope of the other owner -/

/-- The agent of the envelope is the one on record for its actor; or the
participant map has none to compare it with, and the reducer does not get to
compare it: its number is stored, the session is over, or it is a first
acceptance. -/
def recognized (now : Instant) (db : Db) (row : SessionRow) (envelope : SessionEnvelope) : Bool :=
  envelope.actorAgentId == registeredAgent row envelope.actorUsername ||
    (checkedAgent row envelope.kind envelope.actorUsername).isNone &&
      ((storedEvent? db envelope.sessionId envelope.actorUsername envelope.sequence).isSome ||
        isTerminalState row.status || expiresNow row now ||
        acceptsFirst row envelope.kind envelope.actorUsername)

/-- Where the map has an agent, it is the registered one. -/
theorem checkedAgent_eq_some (hdistinct : row.initiatorUsername ≠ row.receiverUsername)
    {kind : MessageKind} {agentId : String} (h : checkedAgent row kind username = some agentId) :
    registeredAgent row username = agentId := by
  rw [registeredAgent_eq, agentColumnOf]
  by_cases hreceiver : username = row.receiverUsername
  · have hinitiator : username ≠ row.initiatorUsername := fun h => hdistinct (h.symm.trans hreceiver)
    rw [checkedAgent, if_neg hinitiator, Option.or_none] at h
    split at h
    · rw [if_pos hreceiver]
      exact textOr_of_given h username
    · cases h
  · rw [checkedAgent, if_neg (fun h => hreceiver h.1), Option.none_or] at h
    split at h
    · rw [if_neg hreceiver]
      exact textOr_of_given h username
    · cases h

section Check

variable {ctx : IngestContext} {raw : Fields}

/-- A number that is stored is answered before the reducer. -/
theorem not_agentRefused_of_stored (hver : verified? ctx db raw = some envelope)
    (hstored : (storedEvent? db envelope.sessionId envelope.actorUsername
      envelope.sequence).isSome = true) : ¬AgentRefused ctx db raw := by
  obtain ⟨event, hevent⟩ := Option.isSome_iff_exists.mp hstored
  rintro ⟨ack, hexit, hrejected, hcode⟩
  rw [(ingestEnvelope_of_repeated hver hevent).2] at hexit
  split at hexit
  · obtain ⟨ack', hack', hdelivered⟩ := deliveredAck_ok (readFrom_of_verified hver) ctx
    rw [hexit] at hack'
    cases hack'
    rw [hdelivered] at hrejected
    cases hrejected
  · rw [errorCode_of_acknowledgement hexit] at hcode
    cases hcode

/-- A well-signed envelope of a participant passes the checks of its agent exactly
if it is recognized. -/
theorem not_agentRefused_iff (h : WellSigned ctx raw envelope)
    (hrow : db.session? envelope.sessionId = some row) (hmember : Member row envelope.actorUsername)
    (hdistinct : row.initiatorUsername ≠ row.receiverUsername) :
    ¬AgentRefused ctx db raw ↔ recognized ctx.now db row envelope = true := by
  cases hchecked : (checkedAgent row envelope.kind envelope.actorUsername).all
      (· == envelope.actorAgentId) with
  | false =>
      obtain ⟨agentId, hagent, hne⟩ := Option.all_eq_false _ _ |>.mp hchecked
      have hother : envelope.actorAgentId ≠ agentId := fun heq => by simp [heq] at hne
      refine iff_of_false (not_not.mpr (agentRefused_of_checked h hrow hagent hother)) ?_
      simp [recognized, hagent, checkedAgent_eq_some hdistinct hagent, hother]
  | true =>
  have hver := (verified?_iff_of_wellSigned h hrow).mpr hchecked
  -- an agent that the map has and that passes is the registered one
  have hknown : (checkedAgent row envelope.kind envelope.actorUsername).isNone = false →
      envelope.actorAgentId = registeredAgent row envelope.actorUsername := by
    intro hsome
    obtain ⟨agentId, hagent⟩ := Option.isSome_iff_exists.mp (Option.isNone_eq_false_iff.mp hsome)
    rw [hagent, Option.all_some, beq_iff_eq] at hchecked
    rw [checkedAgent_eq_some hdistinct hagent, hchecked]
  cases hstored : (storedEvent? db envelope.sessionId envelope.actorUsername
      envelope.sequence).isSome with
  | true =>
      refine iff_of_true (not_agentRefused_of_stored hver hstored) ?_
      rw [recognized, hstored]
      cases hnone : (checkedAgent row envelope.kind envelope.actorUsername).isNone with
      | true => simp
      | false => simp [hknown hnone]
  | false =>
      have hnew := Option.isSome_eq_false_iff.mp hstored |> Option.isNone_iff_eq_none.mp
      rw [agentRefused_iff h hrow hmember hnew, Bool.not_eq_false, agentAccepted, hchecked,
        recognized, hstored, Bool.true_and, Bool.false_or]
      cases hnone : (checkedAgent row envelope.kind envelope.actorUsername).isNone with
      | true =>
          simp only [Bool.true_and, Bool.or_eq_true]
          tauto
      | false => simp [hknown hnone]

end Check

end Kin.Node
