import Kin.Node.NextEnvelope
import Kin.Session.TagIn

/-!
When a handoff writes the agent column. With the owner's X25519 key a rejected envelope
raises before the column is written; without it nobody looks at the acknowledgement. The
package of a handoff is made of what the peers have seen.
-/

namespace Kin.Node

open Kin.Py Kin.Lib Kin.Schemas Kin.Session Kin.Storage Kin.Audit Kin.Policy Kin.Transport

/-! ### The envelope of a handoff -/

/-- The `PARTICIPANT_CHANGED` envelope of a handoff, in the context it is ingested in. -/
def announcement? (sender : Sender) (db : Db) (sid : String) (args : TagIn) :
    Option (IngestContext × Fields) := do
  let _ ← (db.getCard args.replacementAgentId).filter (·.enabled)
  let row ← db.session? sid
  let current := agentColumn (isSenderSide sender row) row
  if current = some args.replacementAgentId then none
  else
  let package := handoffPackage sender.ext row.objective args.replacementAgentId
    ((db.eventsOf sid).map (eventEntry sender.ext))
  let contentHash ← computeContentHash sender.ext package
  let sequence := nextSequence db sid sender.username
  match args.ownerX25519 with
  | some key =>
      let sender := { sender with x25519Key := key }
      return (selfContext sender (db.resolvePeerContactInfo (peerOf sender row)).2.2,
        signedEnvelope sender sid (textOr current sender.username) contentHash sequence
          .participantChanged package)
  | none =>
      return (tagInContext sender args,
        participantChanged sender sid current contentHash sequence package)

/-- The local ingestion answers the envelope with `delivered`. -/
def Accepted (ctx : IngestContext) (db : Db) (body : Fields) : Prop :=
  ∃ ack, (ingestEnvelope ctx db body).exit = .ok ack ∧ ack.status = .delivered

def isPeerVisible (event : SessionEventRow) : Bool := decide (event.visibility = .peerVisible)

section

variable (sender : Sender) (db : Db) (sid : String) (args : TagIn)

/-- The agent columns change only if the envelope was accepted, the row stays as it is
otherwise, and the signed package is made of the objective and of peer-visible events. -/
structure HandsOver : Prop where
  agents : ∀ row row', db.session? sid = some row →
    (tagInHandoff sender db sid args).db.session? sid = some row' →
      row'.senderAgentId ≠ row.senderAgentId ∨ row'.receiverAgentId ≠ row.receiverAgentId →
        ∃ ctx body, announcement? sender db sid args = some (ctx, body) ∧ Accepted ctx db body
  otherwise : (¬∃ ctx body, announcement? sender db sid args = some (ctx, body) ∧
      Accepted ctx db body) →
    (tagInHandoff sender db sid args).db.session? sid = db.session? sid
  package : ∀ ctx body, announcement? sender db sid args = some (ctx, body) →
    ∃ row, db.session? sid = some row ∧ body.getD "payload" .null =
      .obj (handoffPackage sender.ext row.objective args.replacementAgentId
        (((db.eventsOf sid).filter isPeerVisible).map (eventEntry sender.ext)))

/-- The checks of ingestion let the envelope pass, or a rejection of it raises and the
session is not overdue. -/
def MayAnnounce : Prop :=
  ∀ ctx body, announcement? sender db sid args = some (ctx, body) →
    turnedDown ctx db body = true →
      args.ownerX25519.isSome = true ∧
        ∀ row, db.session? sid = some row → expiresNow row sender.now = false

end

/-! ### The package -/

/-- A handoff package depends on peer-visible events alone. -/
theorem handoffPackage_visible (ext : Externals) (objective : Option String) (agentId : String)
    (events : List SessionEventRow) :
    handoffPackage ext objective agentId (events.map (eventEntry ext)) =
      handoffPackage ext objective agentId ((events.filter isPeerVisible).map (eventEntry ext)) := by
  have hshared : (events.map (eventEntry ext)).filter isHandedOver =
      ((events.filter isPeerVisible).map (eventEntry ext)).filter isHandedOver := by
    induction events with
    | nil => rfl
    | cons event events ih =>
        cases hvisible : isPeerVisible event with
        | true =>
            rw [List.filter_cons_of_pos hvisible, List.map_cons, List.map_cons, List.filter_cons,
              List.filter_cons, ih]
        | false =>
            have hnot : isHandedOver (eventEntry ext event) = false := by
              have hother := of_decide_eq_false hvisible
              simp [isHandedOver, eventEntry, hother]
            rw [List.filter_cons_of_neg (by simp [hvisible]), List.map_cons,
              List.filter_cons_of_neg (by simp [hnot])]
            exact ih
  unfold handoffPackage
  rw [hshared]

/-! ### What a handoff does with its envelope -/

/-- A handoff comes to its envelope; after a rejection it raises or writes the column. -/
structure Announces (sender : Sender) (db : Db) (sid : String) (args : TagIn) (row : SessionRow)
    (ctx : IngestContext) (body : Fields) : Prop where
  next : NextEnvelope db body sid sender.username
  kind : rawKind body = .text MessageKind.participantChanged.value
  now : ctx.now = sender.now
  replaces : agentColumn (isSenderSide sender row) row ≠ some args.replacementAgentId
  package : body.getD "payload" .null = .obj (handoffPackage sender.ext row.objective
    args.replacementAgentId ((db.eventsOf sid).map (eventEntry sender.ext)))
  rejected : ∀ ack, (ingestEnvelope ctx db body).exit = .ok ack → ack.status = .rejected →
    (tagInHandoff sender db sid args).db =
      if args.ownerX25519.isSome then (ingestEnvelope ctx db body).db
      else (ingestEnvelope ctx db body).db.updateSession sid
        (setAgent (isSenderSide sender row) args.replacementAgentId)

theorem announcement_cases (sender : Sender) (db : Db) (sid : String) (args : TagIn) :
    (announcement? sender db sid args = none ∧ (tagInHandoff sender db sid args).db = db) ∨
    ∃ ctx body row, announcement? sender db sid args = some (ctx, body) ∧
      db.session? sid = some row ∧ Announces sender db sid args row ctx body := by
  cases hcard : (db.getCard args.replacementAgentId).filter (·.enabled) with
  | none =>
      refine .inl ⟨?_, ?_⟩
      · simp only [announcement?, hcard, Option.bind_eq_bind, Option.bind_none]
      · simp only [tagInHandoff, hcard]
  | some card =>
  cases hrow : db.session? sid with
  | none =>
      refine .inl ⟨?_, ?_⟩
      · simp only [announcement?, hcard, hrow, Option.bind_eq_bind, Option.bind_some,
          Option.bind_none]
      · simp only [tagInHandoff, hcard, hrow]
  | some row =>
  by_cases hsame : agentColumn (isSenderSide sender row) row = some args.replacementAgentId
  · refine .inl ⟨?_, ?_⟩
    · simp only [announcement?, hcard, hrow, Option.bind_eq_bind, Option.bind_some, hsame, if_true]
    · simp only [tagInHandoff, hcard, hrow, hsame, if_true]
  cases hhash : computeContentHash sender.ext (handoffPackage sender.ext row.objective
      args.replacementAgentId ((db.eventsOf sid).map (eventEntry sender.ext))) with
  | none =>
      refine .inl ⟨?_, ?_⟩
      · simp only [announcement?, hcard, hrow, Option.bind_eq_bind, Option.bind_some, hsame,
          if_false, hhash, Option.bind_none]
      · simp only [tagInHandoff, hcard, hrow, hsame, if_false, stateOf, announceChange]
        cases args.ownerX25519 with
        | none => simp only [hhash]
        | some key => simp only [sendSessionMessage, hrow, hhash]
  | some contentHash =>
  cases hkey : args.ownerX25519 with
  | none =>
      refine .inr ⟨_, _, row, by
        simp only [announcement?, hcard, hrow, Option.bind_eq_bind, Option.bind_some, hsame,
          if_false, hhash, hkey]
        rfl, rfl, ?_⟩
      exact
        { next := ⟨rfl, rfl, rfl, ⟨contentHash, rfl⟩, row, hrow, .inr rfl⟩
          kind := rfl
          now := rfl
          replaces := hsame
          package := rfl
          rejected := by
            intro ack hexit hstatus
            simp only [tagInHandoff, hcard, hrow, hsame, if_false, stateOf, announceChange, hkey,
              hhash, hexit]
            rfl }
  | some key =>
      refine .inr ⟨_, _, row, by
        simp only [announcement?, hcard, hrow, Option.bind_eq_bind, Option.bind_some, hsame,
          if_false, hhash, hkey]
        rfl, rfl, ?_⟩
      exact
        { next := ⟨rfl, rfl, rfl, ⟨contentHash, rfl⟩, row, hrow, .inr rfl⟩
          kind := rfl
          now := rfl
          replaces := hsame
          package := rfl
          rejected := by
            intro ack hexit hstatus
            have hself := selfIngest_of_rejected hexit hstatus
            simp only [tagInHandoff, hcard, hrow, hsame, if_false, stateOf, announceChange, hkey,
              sendSessionMessage, hhash, hself]
            rfl }

/-! ### After a rejection -/

/-- The lazy expiry changes the row exactly when it applies. -/
theorem lookedUp_eq_self {now : Instant} {row : SessionRow} :
    lookedUp now row = row ↔ expiresNow row now = false := by
  unfold lookedUp
  cases hexpires : expiresNow row now with
  | false => simp
  | true =>
      rw [if_pos rfl]
      refine ⟨fun heq => ?_, fun hno => by cases hno⟩
      have hlive : isValidTransition row.status .expired = true :=
        (Bool.and_eq_true_iff.mp hexpires).2
      rw [← congrArg SessionRow.status heq] at hlive
      cases hlive

/-- A rejected handoff without the owner's X25519 key replaces the agent all the same. -/
theorem agent_of_rejected {sender : Sender} {db : Db} {sid : String} {args : TagIn}
    {row : SessionRow} {ctx : IngestContext} {body : Fields}
    (h : Announces sender db sid args row ctx body) (hrow : db.session? sid = some row)
    {ack : TransportAcknowledgement} (hexit : (ingestEnvelope ctx db body).exit = .ok ack)
    (hstatus : ack.status = .rejected) (hkey : args.ownerX25519.isSome = false) :
    (tagInHandoff sender db sid args).db.session? sid =
      some (setAgent (isSenderSide sender row) args.replacementAgentId
        (lookedUp ctx.now row)) := by
  have hlooked := session?_of_rejected h.next.sessionId hrow hexit hstatus
  rw [h.rejected ack hexit hstatus, hkey]
  simp only [Bool.false_eq_true, if_false]
  rw [session?_updateSession_self (setAgent_sessionId _ _), hlooked]
  rfl

/-- With the key it raises, and the row is left to the lazy expiry. -/
theorem row_of_rejected {sender : Sender} {db : Db} {sid : String} {args : TagIn}
    {row : SessionRow} {ctx : IngestContext} {body : Fields}
    (h : Announces sender db sid args row ctx body) (hrow : db.session? sid = some row)
    {ack : TransportAcknowledgement} (hexit : (ingestEnvelope ctx db body).exit = .ok ack)
    (hstatus : ack.status = .rejected) (hkey : args.ownerX25519.isSome = true) :
    (tagInHandoff sender db sid args).db.session? sid = some (lookedUp ctx.now row) := by
  rw [h.rejected ack hexit hstatus, hkey]
  exact session?_of_rejected h.next.sessionId hrow hexit hstatus

theorem setAgent_ne {senderSide : Bool} {agentId : String} {row : SessionRow}
    (h : agentColumn senderSide row ≠ some agentId) (now : Instant) :
    setAgent senderSide agentId (lookedUp now row) ≠ row := by
  intro heq
  apply h
  rw [← heq]
  cases senderSide with
  | true => rfl
  | false => rfl

/-- A handoff writes agents after acceptance only, and otherwise leaves the row alone,
exactly when its envelope passes or its rejection raises on a session that is not overdue;
its package is made of peer-visible events in any case. -/
theorem tag_in_updates_after_acceptance_iff (sender : Sender) (db : Db) (sid : String)
    (args : TagIn) : HandsOver sender db sid args ↔ MayAnnounce sender db sid args := by
  rcases announcement_cases sender db sid args with
    ⟨hnone, hdb⟩ | ⟨ctx, body, row, hsome, hrow, hannounces⟩
  · refine iff_of_true ⟨?_, fun _ => by rw [hdb], ?_⟩ ?_
    · intro row row' hrow hrow' hchanged
      rw [hdb, hrow] at hrow'
      cases hrow'
      rcases hchanged with hne | hne
      · exact absurd rfl hne
      · exact absurd rfl hne
    · intro ctx body hsome
      rw [hnone] at hsome
      cases hsome
    · intro ctx body hsome
      rw [hnone] at hsome
      cases hsome
  constructor
  · intro h ctx' body' hsome' hdown
    rw [hsome] at hsome'
    cases hsome'
    obtain ⟨ack, hexit, hstatus⟩ := (answer_of_next hannounces.next).1 hdown
    have hrejected : ¬∃ ctx body, announcement? sender db sid args = some (ctx, body) ∧
        Accepted ctx db body := by
      rintro ⟨_, _, hsome', ack', hexit', hstatus'⟩
      rw [hsome] at hsome'
      cases hsome'
      rw [hexit] at hexit'
      cases hexit'
      rw [hstatus] at hstatus'
      cases hstatus'
    have hkept := h.otherwise hrejected
    rw [hrow] at hkept
    cases hkey : args.ownerX25519.isSome with
    | false =>
        rw [agent_of_rejected hannounces hrow hexit hstatus hkey] at hkept
        exact absurd (Option.some.inj hkept) (setAgent_ne hannounces.replaces _)
    | true =>
        rw [row_of_rejected hannounces hrow hexit hstatus hkey] at hkept
        refine ⟨rfl, fun other hother => ?_⟩
        rw [hrow] at hother
        cases hother
        rw [← hannounces.now]
        exact lookedUp_eq_self.mp (Option.some.inj hkept)
  · intro h
    have hkept : (∃ ctx body, announcement? sender db sid args = some (ctx, body) ∧
          Accepted ctx db body) ∨
        (tagInHandoff sender db sid args).db.session? sid = db.session? sid := by
      cases hdown : turnedDown ctx db body with
      | false =>
          exact .inl ⟨ctx, body, hsome, delivered_of_change hannounces.next hannounces.kind hdown⟩
      | true =>
          obtain ⟨hkey, htimely⟩ := h ctx body hsome hdown
          obtain ⟨ack, hexit, hstatus⟩ := (answer_of_next hannounces.next).1 hdown
          rw [row_of_rejected hannounces hrow hexit hstatus hkey, hrow, hannounces.now,
            lookedUp_eq_self.mpr (htimely row hrow)]
          exact .inr rfl
    refine ⟨fun row row' hrow hrow' hchanged => ?_, fun hno => hkept.resolve_left hno,
      fun ctx' body' hsome' => ?_⟩
    · refine hkept.resolve_right fun hsame => ?_
      rw [hsame, hrow] at hrow'
      cases hrow'
      rcases hchanged with hne | hne
      · exact hne rfl
      · exact hne rfl
    · rw [hsome] at hsome'
      cases hsome'
      refine ⟨row, hrow, ?_⟩
      rw [hannounces.package, handoffPackage_visible]

namespace Sample

open Kin.Transport.Sample

/-- `bob` has two agents; `alice` asked for one of them and then cancelled. -/
def cancelled : Db :=
  run step (Db.fresh (some "bob") []
      [⟨"bot", true, "available", none⟩, ⟨"helper", true, "available", none⟩])
    [ingest "s1" "alice" "scout" 1 .taskRequest request, ingest "s1" "alice" "scout" 2 .cancel []]

/-- `bob` puts the other agent in, on a node that cannot encrypt. -/
def helped : TagIn := { replacementAgentId := "helper", ownerX25519 := none }

end Sample

/-- The session is over, the envelope is rejected, and the agent is replaced. -/
theorem rejected_handoff_replaces_agent :
    ((announcement? (Transport.Sample.sender "bob") Sample.cancelled "s1" Sample.helped).any
      fun announced => (ingestEnvelope announced.1 Sample.cancelled announced.2).exit.toOption.any
        fun ack => decide (ack.status = .rejected)) = true ∧
    (Sample.cancelled.session? "s1").map (·.receiverAgentId) = some (some "bot") ∧
    ((tagInHandoff (Transport.Sample.sender "bob") Sample.cancelled "s1" Sample.helped).db.session?
      "s1").map (·.receiverAgentId) = some (some "helper") := by
  decide +kernel

end Kin.Node
