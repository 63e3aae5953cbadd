import Kin.Node.Activity
import Kin.Transport.Rejection

/-!
Whom a request is for. Nothing in an envelope is its recipient: a node that knows
the author's key opens the session for its own identity, and the `peer_username`
of the payload is read by the author's own node only.
-/

namespace Kin.Node

open Kin.Py Kin.Lib Kin.Schemas Kin.Session Kin.Storage Kin.Audit Kin.Transport

variable {ctx ctx' : IngestContext} {db db' : Db} {raw : Fields} {sid : String}
  {envelope : SessionEnvelope} {row : SessionRow}

def OpensSession (ctx : IngestContext) (db : Db) (raw : Fields) (sid : String) : Prop :=
  db.session? sid = none ∧ ((ingestEnvelope ctx db raw).db.session? sid).isSome = true

/-- A session that the call opens is the one its body asks for. -/
theorem creates_of_opensSession (h : OpensSession ctx db raw sid) :
    ∃ envelope row row', verified? ctx db raw = some envelope ∧ envelope.sessionId = sid ∧
      Creates ctx db envelope row ∧ (ingestEnvelope ctx db raw).db.session? sid = some row' ∧
      SameTerms row row' := by
  obtain ⟨hnone, hsome⟩ := h
  have hmoves : Relation.ReflTransGen (Move (Handles ctx db raw)) db
      (ingestEnvelope ctx db raw).db := ingest_moves fun _ _ _ h => h
  generalize (ingestEnvelope ctx db raw).db = after at hmoves hsome ⊢
  induction hmoves with
  | refl =>
      rw [hnone] at hsome
      cases hsome
  | @tail before after _ hmove ih =>
      have hchange : Change (Handles ctx db raw) False (fun _ => False) before after := .move hmove
      cases hbefore : before.session? sid with
      | some row =>
          rw [hbefore] at ih
          obtain ⟨envelope, row, row', hver, hsid, hcreates, hrow, hterms⟩ := ih rfl
          obtain ⟨row'', hrow'', hterms', -⟩ :=
            KeepsRow.of_change hchange sid row' (by rw [hbefore, hrow])
          exact ⟨envelope, row, row'', hver, hsid, hcreates, hrow'', hterms.trans hterms'⟩
      | none =>
          obtain ⟨row', hrow'⟩ := Option.isSome_iff_exists.mp hsome
          obtain ⟨under, body, envelope, row, hhandles, hver, hcreates, hsid, hterms⟩ :=
            hchange.opened hbefore hrow'
          rcases hhandles with ⟨rfl, rfl, hver'⟩ | ⟨hkind, -⟩
          · exact ⟨envelope, row, row', hver', hsid, hcreates, hrow', hterms⟩
          · rw [← hsid] at hbefore
            rw [verified_isTaskRequest hver hbefore] at hkind
            cases hkind

/-- A request that can be created, by somebody else, is. -/
theorem opensSession_of_opens (hver : verified? ctx db raw = some envelope)
    (hopens : Opens ctx db envelope row)
    (hreceiver : (asText (receiverOf db envelope)).isSome = true) :
    OpensSession ctx db raw envelope.sessionId := by
  refine ⟨hopens.absent, ?_⟩
  have hkind := verified_isTaskRequest hver hopens.absent
  have hnew := newRow_of_creates hopens.creates
  by_cases hseq : envelope.sequence = 1
  · have haccepts : Accepts ctx db raw envelope (db.addSession row) row
        (bootstrapState row envelope) (bootstrapState row envelope).participants :=
      { verified := hver
        fresh := hopens.fresh
        timely := fun stored hstored => by rw [hopens.absent] at hstored; cases hstored
        loaded := .created hopens.absent hkind hopens.creates hreceiver
        admitted := by
          rw [advanceToReview_bootstrapState]
          exact admitted_bootstrapState hnew hkind hseq }
    obtain ⟨after, heq, hcommits⟩ := ingestCommit_of_accepts haccepts
    have hoffer : isPeerOffer after envelope = false := by simp [isPeerOffer, hkind]
    simp only [ingestEnvelope, heq, hoffer, Bool.false_eq_true, if_false]
    rw [hcommits.session?_self haccepts.loaded.base_session?]
    rfl
  · obtain ⟨message, heq⟩ := ingestCommit_of_opens hver hopens hreceiver hseq
    have habsent := hopens.absent
    simp only [ingestEnvelope, heq]
    rw [← hnew.sessionId] at habsent ⊢
    rw [session?_addSession_self habsent]
    rfl

/-- Verification of a first request looks at the author's key only. -/
theorem verified?_elsewhere (hver : verified? ctx db raw = some envelope)
    (habsent : db.session? envelope.sessionId = none) (hext : ctx'.ext = ctx.ext)
    (hkey : ctx'.getPublicKey (.text envelope.actorUsername) =
      ctx.getPublicKey (.text envelope.actorUsername))
    (habsent' : db'.session? envelope.sessionId = none) :
    verified? ctx' db' raw = some envelope := by
  have hread := readFrom_of_verified hver
  have hkind := verified_isTaskRequest hver habsent
  obtain ⟨_, opened, hopen, hok⟩ := verified?_eq_some.mp hver
  have hspec := verifyAndBuildEnvelope_eq_ok.mp hok
  obtain ⟨-, -, -, -, -, key, hget, -⟩ := id hspec
  rw [openSession_of_new hread habsent hkind hget] at hopen
  cases hopen
  rw [← hkey] at hget
  refine verified?_eq_some.mpr ⟨_, _, openSession_of_new hread habsent' hkind hget, ?_⟩
  rw [verifyAndBuildEnvelope_eq_ok, hext, hkey]
  exact hspec

/-- A node opens a session only for a body signed with its author's key, and for
itself as the receiver, unless it is the author's, which takes the receiver from
the payload. The same body opens the session on every other node that has the
author's key. -/
theorem request_opens_for_local_identity (h : OpensSession ctx db raw sid) :
    ∃ envelope row, validateEnvelope raw = some envelope ∧ envelope.kind = .taskRequest ∧
      envelope.sessionId = sid ∧
      (∃ key, ctx.getPublicKey (.text envelope.actorUsername) = some key ∧
        verifyEnvelopeSignature ctx.ext raw key = true) ∧
      (ingestEnvelope ctx db raw).db.session? sid = some row ∧
      row.initiatorUsername = envelope.actorUsername ∧
      (envelope.actorUsername ≠ db.myUsername → row.receiverUsername = db.myUsername) ∧
      (envelope.actorUsername = db.myUsername → ∀ peer,
        envelope.payload.getD "peer_username" (.text "") = .text peer →
          row.receiverUsername = peer) ∧
      ∀ (ctx' : IngestContext) (db' : Db), ctx'.ext = ctx.ext →
        ctx'.getPublicKey (.text envelope.actorUsername) =
          ctx.getPublicKey (.text envelope.actorUsername) →
        db'.session? sid = none →
        storedEvent? db' sid envelope.actorUsername envelope.sequence = none →
        envelope.actorUsername ≠ db'.myUsername → OpensSession ctx' db' raw sid := by
  obtain ⟨envelope, row, row', hver, rfl, hcreates, hrow', hterms⟩ := creates_of_opensSession h
  obtain ⟨_, _, -, hok⟩ := verified?_eq_some.mp hver
  obtain ⟨hvalid, -, -, -, -, key, hkey, hsigned⟩ := verifyAndBuildEnvelope_eq_ok.mp hok
  refine ⟨envelope, row', hvalid, verified_isTaskRequest hver h.1, rfl, ⟨key, hkey, hsigned⟩, hrow',
    ?_, fun hother => ?_, fun hmine peer hpeer => ?_,
    fun ctx' db' hext hsame habsent hfresh hother => ?_⟩
  · rw [hterms.initiatorUsername, (newRow_of_creates hcreates).initiator]
  · rw [hterms.receiverUsername]
    refine receiverUsername_of_creates hcreates ?_
    rw [receiverOf, if_neg hother]
    rfl
  · rw [hterms.receiverUsername]
    refine receiverUsername_of_creates hcreates ?_
    rw [receiverOf, if_pos hmine, hpeer]
    rfl
  · have hreceiver : receiverOf db' envelope = .text db'.myUsername := by
      rw [receiverOf, if_neg hother]
    obtain ⟨type, htype, hboot⟩ := hcreates
    refine opensSession_of_opens (verified?_elsewhere hver h.1 hext hsame habsent)
      ⟨habsent, hfresh, type, htype, bootstrapRow_elsewhere hext hreceiver hboot⟩ ?_
    rw [hreceiver]
    rfl

/-- A session is opened only by a request that names this node's identity, or by
the identity itself. -/
def RecipientBound (ctx : IngestContext) (db : Db) (raw : Fields) : Prop :=
  ∀ sid, OpensSession ctx db raw sid → ∃ envelope, validateEnvelope raw = some envelope ∧
    (envelope.payload.get? "peer_username" = some (.text db.myUsername) ∨
      envelope.actorUsername = db.myUsername)

namespace Sample

open Kin.Transport.Sample

/-- `alice`'s request for `bob`. -/
def requestForBob : Fields :=
  Transport.Sample.envelope "s1" "alice" "scout" 1 .taskRequest request

/-- The node of `carol`, who knows `alice`. -/
def carolDb : Db := Db.fresh (some "carol") [] []

theorem opensSession_of_isSome {db : Db} {raw : Fields} (hnone : (db.session? "s1").isNone = true)
    (h : ((ingestEnvelope context db raw).db.session? "s1").isSome = true) :
    OpensSession context db raw "s1" := ⟨Option.isNone_iff_eq_none.mp hnone, h⟩

end Sample

/-- On `bob`'s node the request opens a session with `bob` as the receiver. -/
theorem request_opens_on_bob :
    ∃ row, (ingestEnvelope Sample.context Sample.bobDb Sample.requestForBob).db.session? "s1" =
      some row ∧ row.receiverUsername = "bob" := by
  have hopens : OpensSession Sample.context Sample.bobDb Sample.requestForBob "s1" :=
    Sample.opensSession_of_isSome (by decide) (by decide +kernel)
  obtain ⟨envelope, row, hvalid, -, -, -, hrow, -, hreceiver, -⟩ :=
    request_opens_for_local_identity hopens
  refine ⟨row, hrow, hreceiver ?_⟩
  have hactor : Json.text "alice" = .text envelope.actorUsername :=
    (readFrom_of_validateEnvelope hvalid).actorUsername
  intro hbob
  rw [hbob] at hactor
  exact absurd hactor (by simp [Db.myUsername, Transport.Sample.bobDb, Db.fresh])

/-- On `carol`'s node it opens one as well. -/
theorem request_for_bob_opens_on_carol :
    ¬RecipientBound Sample.context Sample.carolDb Sample.requestForBob := by
  intro hbound
  obtain ⟨envelope, hvalid, hpeer | hactor⟩ := hbound "s1"
    (Sample.opensSession_of_isSome (by decide) (by decide +kernel))
  · have hpayload : some (Json.obj Transport.Sample.request) = some (.obj envelope.payload) :=
      payload_of_validateEnvelope hvalid
    have hpayload' := Json.obj.inj (Option.some.inj hpayload)
    rw [← hpayload'] at hpeer
    have hnames : some (Json.text "bob") = some (.text "carol") := hpeer
    simp at hnames
  · have hname : Json.text "alice" = .text envelope.actorUsername :=
      (readFrom_of_validateEnvelope hvalid).actorUsername
    rw [hactor] at hname
    exact absurd hname (by simp [Db.myUsername, Sample.carolDb, Db.fresh])

end Kin.Node
