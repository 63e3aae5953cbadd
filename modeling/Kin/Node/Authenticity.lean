import Kin.Node.Activity
import Kin.Py.JsonEq
import Kin.Transport.Refinement

/-!
Who can put an event into a session. The signature is checked on the raw body,
the stored event is built from the parsed envelope, the participant map names the
claimed actor itself, and membership is the reducer's check; together they give:
every sequenced event is by one of the two names of its session, and what it says
about itself was signed with that actor's key.
-/

namespace Kin.Node

open Kin.Py Kin.Lib Kin.Schemas Kin.Session Kin.Storage Kin.Audit Kin.Transport

/-! ### Signatures -/

/-- Signatures cannot be forged and canonical forms are injective up to the value
of numbers: what verifies under a key is, as a document, something that was signed
with it. -/
def IdealSignatures (ext : Externals) (signed : PublicKey → Fields → Prop) : Prop :=
  ∀ key signature fields, ext.ed25519Verify key signature fields = true →
    ∃ dict, signed key dict ∧ JsonEq (.obj dict) (.obj fields)

/-- The body holds the fields of `envelope` under their keys. -/
structure Spells (fields : Fields) (envelope : SessionEnvelope) : Prop where
  sessionId : fields.get? "session_id" = some (.text envelope.sessionId)
  sequence : fields.get? "sequence" = some (.int envelope.sequence)
  actorUsername : fields.get? "actor_username" = some (.text envelope.actorUsername)
  actorAgentId : fields.get? "actor_agent_id" = some (.text envelope.actorAgentId)
  kind : fields.get? "kind" = some (.text envelope.kind.value)
  contentHash : fields.get? "content_hash" = some (.text envelope.contentHash)

theorem get?_of_textField {raw : Fields} {key s : String} (h : textField raw key = some s) :
    raw.get? key = some (.text s) := by
  obtain ⟨v, hv, hs⟩ := Option.bind_eq_some_iff.mp h
  rw [hv, asText_eq_some hs]

theorem get?_of_strictSequence {raw : Fields} {n : { n : Nat // 1 ≤ n }}
    (h : strictSequence raw = some n) : raw.get? "sequence" = some (.int n.1) := by
  unfold strictSequence at h
  split at h
  · rename_i m hm
    split at h
    · rename_i hpos
      cases h
      have hm' : (m.toNat : Int) = m := Int.toNat_of_nonneg (by omega)
      rw [hm, hm']
    · cases h
  · cases h

theorem spells_of_validateEnvelope {raw : Fields} {envelope : SessionEnvelope}
    (h : validateEnvelope raw = some envelope) : Spells raw envelope := by
  simp only [validateEnvelope, bind, Option.bind_eq_some_iff, pure, Option.some.injEq] at h
  obtain ⟨-, -, -, -, -, -, sid, hsid, seq, hseq, actor, hactor, agent, hagent, _, _, -, _, kind,
    ⟨text, htext, hkind⟩, hash, hhash, -, _, _, _, _, _, rfl⟩ := h
  exact
    { sessionId := get?_of_textField hsid
      sequence := get?_of_strictSequence hseq
      actorUsername := get?_of_textField hactor
      actorAgentId := get?_of_textField hagent
      kind := by rw [MessageKind.value_of_ofText hkind]; exact get?_of_textField htext
      contentHash := get?_of_textField hhash }

/-- A signed document says about itself what the stored event says: session,
sequence, actor, agent, kind and the content hash of the payload. -/
structure Describes (ext : Externals) (dict : Fields) (event : SessionEventRow) : Prop where
  sessionId : dict.get? "session_id" = some (.text event.sessionId)
  sequence : ∃ n, event.sequence = some n ∧ (dict.get? "sequence").bind Json.number? = some (n : ℚ)
  actorUsername : dict.get? "actor_username" = some (.text event.actorUsername)
  actorAgentId : ∃ agentId, event.actorAgentId = some agentId ∧
    dict.get? "actor_agent_id" = some (.text agentId)
  kind : dict.get? "kind" = some (.text event.kind.value)
  contentHash : ∃ payload hash, event.payload = some (.obj payload) ∧
    computeContentHash ext payload = some hash ∧ dict.get? "content_hash" = some (.text hash)

/-- What is signed up to the value of numbers describes the event of the
envelope. -/
theorem describes_of_jsonEq {ext : Externals} {raw dict : Fields} {envelope : SessionEnvelope}
    (hvalid : validateEnvelope raw = some envelope)
    (hhash : computeContentHash ext envelope.payload = some envelope.contentHash)
    (heq : JsonEq (.obj dict) (.obj (raw.without "signature"))) (before : Db) (now : Instant) :
    Describes ext dict (eventRow before (envelopeEvent envelope now)) := by
  have hspells := spells_of_validateEnvelope hvalid
  have htext : ∀ {key s : String}, key ≠ "signature" → raw.get? key = some (.text s) →
      dict.get? key = some (.text s) := by
    intro key s hne hs
    refine heq.get?_text ?_
    rw [Fields.get?_without_of_ne hne, hs]
  refine
    { sessionId := htext (by decide) hspells.sessionId
      sequence := ⟨envelope.sequence, rfl, ?_⟩
      actorUsername := htext (by decide) hspells.actorUsername
      actorAgentId := ⟨envelope.actorAgentId, rfl, htext (by decide) hspells.actorAgentId⟩
      kind := htext (by decide) hspells.kind
      contentHash := ⟨envelope.payload, envelope.contentHash, rfl, hhash,
        htext (by decide) hspells.contentHash⟩ }
  have hsequence := hspells.sequence
  rw [← Fields.get?_without_of_ne (show "sequence" ≠ "signature" by decide)] at hsequence
  obtain ⟨v, hv, hnumber⟩ := heq.get? hsequence
  rw [hv, Option.bind_some, hnumber.number?_of_int, Int.cast_natCast]

/-! ### Keys

`keys actor key` says that `key` is a key `get_public_key_fn` returns for
`actor`. -/

section Keys

variable (ext : Externals) (keys : String → PublicKey → Prop) (username : String)

/-- A call of `ingest_envelope` whose `get_public_key_fn` answers with `keys`; the
node accepts offers automatically with its own key. -/
structure Consults (ctx : IngestContext) (raw : Fields) : Prop where
  ext : ctx.ext = ext
  key : ∀ actor key, rawActorUsername raw = .text actor →
    ctx.getPublicKey (.text actor) = some key → keys actor key
  ownKey : ∀ key, (ctx.ownerIdentityKey <|> ctx.ext.loadPrivateKey username) = some key →
    keys username (ctx.ext.publicKeyOf key)

/-- The context has only keys of `keys` for the actor of the envelope. -/
def Vouched (under : IngestContext) (before : Db) (envelope : SessionEnvelope) : Prop :=
  under.ext = ext ∧ (before.myUsername = username → ∀ key,
    under.getPublicKey (.text envelope.actorUsername) = some key →
      keys envelope.actorUsername key)

variable {ext keys username}

theorem permits_of_consults {calls : IngestContext → Fields → Prop}
    (h : ∀ ctx raw, calls ctx raw → Consults ext keys username ctx raw) :
    Permits (Vouched ext keys username) calls := by
  intro ctx raw hcall db under before envelope hhandles
  have hconsults := h ctx raw hcall
  rcases hhandles with ⟨rfl, -, hver⟩ | ⟨-, hactor, ⟨hext, own, hown, hget⟩, hmine⟩
  · refine ⟨hconsults.ext, fun _ key hkey => ?_⟩
    exact hconsults.key _ key (readFrom_of_verified hver).actorUsername hkey
  · refine ⟨hext.trans hconsults.ext, fun hname key hkey => ?_⟩
    rw [hname] at hmine
    rw [hactor, ← hmine] at hkey ⊢
    rw [← hmine] at hown hget
    rw [hget] at hkey
    cases hkey
    exact hconsults.ownKey own hown

end Keys

/-! ### The invariant -/

section Invariant

variable {ext : Externals} {keys : String → PublicKey → Prop} {username : String}
  {signed : PublicKey → Fields → Prop} {spending : Prop} {handing : String → Prop} {db db' : Db}

/-- The node has a name, every session has one, and every sequenced event is by
a participant and signed. -/
structure Authentic (ext : Externals) (keys : String → PublicKey → Prop) (username : String)
    (signed : PublicKey → Fields → Prop) (db : Db) : Prop where
  mine : db.myUsername = username
  named : ∀ sid row, db.session? sid = some row →
    row.initiatorUsername ≠ "" ∨ row.receiverUsername ≠ ""
  member : ∀ event ∈ db.sessionEvents, event.sequence.isSome = true →
    ∃ row, db.session? event.sessionId = some row ∧
      (event.actorUsername = row.initiatorUsername ∨ event.actorUsername = row.receiverUsername)
  attested : ∀ event ∈ db.sessionEvents, event.sequence.isSome = true →
    ∃ key dict, keys event.actorUsername key ∧ signed key dict ∧ Describes ext dict event

/-- A participant of a session with a name is one of its two. -/
theorem member_of_authorizeActor {row : SessionRow} {events : List SessionEventRow}
    {envelope : SessionEnvelope}
    (hnamed : row.initiatorUsername ≠ "" ∨ row.receiverUsername ≠ "")
    (h : authorizeActor (advanceToReview (stateOf ext row events) envelope.kind) envelope = none) :
    envelope.actorUsername = row.initiatorUsername ∨
      envelope.actorUsername = row.receiverUsername := by
  have hsome : (rowParticipants row).isEmpty = false := by
    by_cases hreceiver : row.receiverUsername = ""
    · have hinitiator : row.initiatorUsername ≠ "" := hnamed.resolve_right (not_not.mpr hreceiver)
      have hget := get?_rowParticipants row hinitiator
      rw [if_neg (hreceiver.symm ▸ hinitiator), if_pos rfl] at hget
      exact Dict.isEmpty_of_get? hget
    · exact Dict.isEmpty_of_get? ((get?_rowParticipants row hreceiver).trans (if_pos rfl))
  have hparticipants : (advanceToReview (stateOf ext row events) envelope.kind).participants =
      rowParticipants row := by
    rw [advanceToReview_eq]
    rfl
  unfold authorizeActor at h
  rw [hparticipants, hsome] at h
  simp only [Bool.false_eq_true, if_false] at h
  cases hget : (rowParticipants row).get? envelope.actorUsername with
  | none =>
      rw [hget] at h
      cases h
  | some info =>
      by_cases hempty : envelope.actorUsername = ""
      · rw [hempty, get?_rowParticipants_empty] at hget
        cases hget
      rw [get?_rowParticipants row hempty] at hget
      by_cases hr : envelope.actorUsername = row.receiverUsername
      · exact .inr hr
      by_cases hi : envelope.actorUsername = row.initiatorUsername
      · exact .inl hi
      rw [if_neg hr, if_neg hi] at hget
      cases hget

/-- A session opened on a node with a name has one itself. -/
theorem named_of_creates {ctx : IngestContext} {envelope : SessionEnvelope} {row : SessionRow}
    (hname : db.myUsername ≠ "") (h : Creates ctx db envelope row) :
    row.initiatorUsername ≠ "" ∨ row.receiverUsername ≠ "" := by
  by_cases hactor : envelope.actorUsername = db.myUsername
  · left
    rw [(newRow_of_creates h).initiator, hactor]
    exact hname
  · right
    have hreceiver : asText (receiverOf db envelope) = some db.myUsername := by
      rw [receiverOf, if_neg hactor]
      rfl
    rw [receiverUsername_of_creates h hreceiver]
    exact hname

theorem Change.identity {commits : IngestContext → Db → SessionEnvelope → Prop}
    (h : Change commits spending handing db db') : db'.identity = db.identity := by
  cases h with
  | move hmove =>
      cases hmove with
      | ingest hmove => exact hmove.identity
      | status _ _ _ _ hw =>
          rw [SameTables.identity hw]
          rfl
      | append _ _ happ =>
          rw [SameTables.identity happ]
          rfl
      | quiet hquiet =>
          obtain ⟨_, hquiet⟩ := hquiet
          rw [hquiet.identity]
  | queue queue => rfl
  | spend sid _ => rfl
  | handOff sid agentId username hrow hhanded => rfl

/-- The event of an accepted envelope is by a name of its session. -/
theorem member_of_accepts {ctx : IngestContext} {raw : Fields} {envelope : SessionEnvelope}
    {base : Db} {stored : SessionRow} {state : SessionState}
    {participants : Dict String ParticipantInfo}
    (h : Accepts ctx db raw envelope base stored state participants)
    (hnamed : ∀ sid row, db.session? sid = some row →
      row.initiatorUsername ≠ "" ∨ row.receiverUsername ≠ "") :
    envelope.actorUsername = stored.initiatorUsername ∨
      envelope.actorUsername = stored.receiverUsername := by
  have hactor := h.admitted.actor
  cases h.loaded with
  | stored hrow => exact member_of_authorizeActor (hnamed _ _ hrow) hactor
  | created _ _ hcreates _ => exact .inl (newRow_of_creates hcreates).initiator.symm

theorem attested_of_accepts (hideal : IdealSignatures ext signed) {ctx : IngestContext}
    {raw : Fields} {envelope : SessionEnvelope} {base : Db} {stored : SessionRow}
    {state : SessionState} {participants : Dict String ParticipantInfo}
    (hmine : db.myUsername = username) (hvouched : Vouched ext keys username ctx db envelope)
    (h : Accepts ctx db raw envelope base stored state participants) (before : Db)
    (now : Instant) :
    ∃ key dict, keys envelope.actorUsername key ∧ signed key dict ∧
      Describes ext dict (eventRow before (envelopeEvent envelope now)) := by
  obtain ⟨_, _, -, hok⟩ := verified?_eq_some.mp h.verified
  obtain ⟨hvalid, -, hhash, -, -, key, hkey, hverify⟩ := verifyAndBuildEnvelope_eq_ok.mp hok
  rw [hvouched.1] at hhash hverify
  unfold verifyEnvelopeSignature at hverify
  split at hverify
  · rw [Bool.and_eq_true] at hverify
    obtain ⟨dict, hsigned, heq⟩ := hideal key _ _ hverify.2
    exact ⟨key, dict, hvouched.2 hmine key hkey, hsigned, describes_of_jsonEq hvalid hhash heq ..⟩
  · cases hverify

/-- No change stores an event by anybody else. -/
theorem Change.member {commits : IngestContext → Db → SessionEnvelope → Prop}
    (hchange : Change commits spending handing db db')
    (hnamed : ∀ sid row, db.session? sid = some row →
      row.initiatorUsername ≠ "" ∨ row.receiverUsername ≠ "")
    (hmember : ∀ event ∈ db.sessionEvents, event.sequence.isSome = true →
      ∃ row, db.session? event.sessionId = some row ∧
        (event.actorUsername = row.initiatorUsername ∨
          event.actorUsername = row.receiverUsername)) :
    ∀ event ∈ db'.sessionEvents, event.sequence.isSome = true →
      ∃ row, db'.session? event.sessionId = some row ∧
        (event.actorUsername = row.initiatorUsername ∨
          event.actorUsername = row.receiverUsername) := by
  intro event hmem hseq
  rcases hchange.mem_sessionEvents hmem hseq with
    hold | ⟨ctx, raw, envelope, base, stored, state, participants, before, now, row, henv,
      haccepts, rfl, hrow, hterms⟩
  · obtain ⟨row, hrow, hactor⟩ := hmember event hold hseq
    obtain ⟨row', hrow', hterms, -⟩ := KeepsRow.of_change hchange _ row hrow
    refine ⟨row', hrow', ?_⟩
    rw [hterms.initiatorUsername, hterms.receiverUsername]
    exact hactor
  · refine ⟨row, hrow, ?_⟩
    rw [hterms.initiatorUsername, hterms.receiverUsername]
    exact member_of_accepts haccepts hnamed

theorem Authentic.of_change (hideal : IdealSignatures ext signed) (hname : username ≠ "")
    (h : Authentic ext keys username signed db)
    (hchange : Change (Vouched ext keys username) spending handing db db') :
    Authentic ext keys username signed db' := by
  have hmine : db'.myUsername = username := by
    rw [Db.myUsername, hchange.identity]
    exact h.mine
  have hkeeps := KeepsRow.of_change hchange
  refine ⟨hmine, fun sid row' hrow' => ?_, hchange.member h.named h.member,
    fun event hmem hseq => ?_⟩
  · cases hrow : db.session? sid with
    | some row =>
        obtain ⟨row'', hrow'', hterms, -⟩ := hkeeps sid row hrow
        rw [hrow'] at hrow''
        cases hrow''
        rw [hterms.initiatorUsername, hterms.receiverUsername]
        exact h.named sid row hrow
    | none =>
        obtain ⟨ctx, raw, envelope, row, -, -, hcreates, -, hterms⟩ := hchange.opened hrow hrow'
        rw [hterms.initiatorUsername, hterms.receiverUsername]
        exact named_of_creates (h.mine.symm ▸ hname) hcreates
  · rcases hchange.mem_sessionEvents hmem hseq with
      hold | ⟨ctx, raw, envelope, base, stored, state, participants, before, now, row, henv,
        haccepts, rfl, -, -⟩
    · exact h.attested event hold hseq
    · exact attested_of_accepts hideal h.mine henv haccepts before now

variable (keys signed) in
/-- In every run of a node with a name, whatever bodies are handed to
`ingest_envelope` in between, each event with a sequence is by the initiator or
the receiver of its session, and session, sequence, actor, agent, kind and content
hash are those of an envelope signed with a key `get_public_key_fn` returns for
that actor. -/
theorem sequenced_events_authentic (hideal : IdealSignatures ext signed) (hname : username ≠ "")
    (contacts : List ContactRow) (agents : List AgentRow) (activities : List Activity)
    (hcalls : ∀ activity ∈ activities, ∀ ctx raw, activity.calls ctx raw →
      Consults ext keys username ctx raw) :
    let db := run Activity.step (Db.fresh (some username) contacts agents) activities
    ∀ event ∈ db.sessionEvents, event.sequence ≠ none →
      (∃ row, db.session? event.sessionId = some row ∧
        (event.actorUsername = row.initiatorUsername ∨
          event.actorUsername = row.receiverUsername)) ∧
      ∃ key dict, keys event.actorUsername key ∧ signed key dict ∧ Describes ext dict event := by
  intro db event hmem hseq
  have hfresh : Authentic ext keys username signed (Db.fresh (some username) contacts agents) :=
    { mine := rfl
      named := fun _ _ h => by cases h
      member := fun _ h => by cases h
      attested := fun _ h => by cases h }
  have hauthentic : Authentic ext keys username signed db :=
    activities_keep_of_permits (fun _ _ ha hchange => ha.of_change hideal hname hchange)
      (fun activity hactivity => permits_of_consults (hcalls activity hactivity)) hfresh
  have hsome : event.sequence.isSome = true := Option.isSome_iff_ne_none.mpr hseq
  exact ⟨hauthentic.member event hmem hsome, hauthentic.attested event hmem hsome⟩

end Invariant

namespace Sample

open Kin.Transport.Sample

/-- Keys named after their owners, who sign nothing under another name. -/
def namedKeys : Externals :=
  { externals with
    ed25519Verify := fun key signature fields =>
      signature == "signed by " ++ key && textField fields "actor_username" == some key }

/-- A proposal in the name of `alice`, signed by `mallory`. -/
def forgery : Fields :=
  withSignature externals
    (unsignedEnvelope "s1" "alice" "scout" (isoNow time) (digest request) 2 .proposal request)
    "mallory"

/-- A request, a forgery and an acceptance reach `bob`. -/
def intrusion : List Activity :=
  [envelope "s1" "alice" "scout" 1 .taskRequest request, forgery,
    envelope "s1" "bob" "bot" 1 .acceptance [(.text "accepting_agent_id", .text "bot")]].map
    fun raw => .operation (.ingest { context with ext := namedKeys } raw)

end Sample

/-- The request and the acceptance are stored, the forgery is not. -/
theorem intrusion_authentic :
    (run Activity.step Sample.bobDb Sample.intrusion).sessionEvents.map
        (fun e => (e.actorUsername, e.sequence)) = [("alice", some 1), ("bob", some 1)] ∧
      ∀ event ∈ (run Activity.step Sample.bobDb Sample.intrusion).sessionEvents,
        event.sequence ≠ none →
          (∃ row, (run Activity.step Sample.bobDb Sample.intrusion).session? event.sessionId =
              some row ∧
            (event.actorUsername = row.initiatorUsername ∨
              event.actorUsername = row.receiverUsername)) ∧
          ∃ key dict, key = event.actorUsername ∧
            textField dict "actor_username" = some key ∧
            Describes Sample.namedKeys dict event := by
  refine ⟨by decide +kernel, ?_⟩
  refine sequenced_events_authentic (fun actor key => key = actor)
    (fun key dict => textField dict "actor_username" = some key) ?_ (by decide) [] []
    Sample.intrusion ?_
  · intro key signature fields hverify
    simp only [Sample.namedKeys, Bool.and_eq_true, beq_iff_eq] at hverify
    exact ⟨fields, hverify.2, .refl _⟩
  · intro activity hmem ctx raw hcall
    obtain ⟨body, -, rfl⟩ := List.mem_map.mp hmem
    obtain ⟨rfl, rfl⟩ := hcall
    refine ⟨rfl, fun actor key _ hkey => ?_, fun key hkey => ?_⟩
    · exact (Option.some.inj hkey).symm
    · exact (Option.some.inj hkey).symm

end Kin.Node
