import Kin.Node.Authenticity
import Kin.Node.Redelivery

/-!
A number that is used twice. The signed hash of a payload is that of its RFC 8785
form; the duplicate check compares hashes of `json.dumps`, of the payload alone.
The two answers agree except for payloads that differ only in how a number is
written, and for another kind over the same payload.
-/

namespace Kin.Node

open Kin.Py Kin.Lib Kin.Schemas Kin.Session Kin.Storage Kin.Audit Kin.Transport

/-- `compute_content_hash` of the payload of a stored event. -/
def contentHashOf (ext : Externals) (event : SessionEventRow) : Option String :=
  match event.payload with
  | some (.obj payload) => computeContentHash ext payload
  | _ => none

/-- The envelope says what the stored event says, by kind and content hash. -/
def SameContent (ext : Externals) (event : SessionEventRow) (envelope : SessionEnvelope) : Prop :=
  event.kind = .message envelope.kind ∧ contentHashOf ext event = some envelope.contentHash

/-- The call acknowledges the envelope if it is the stored one, and otherwise
rejects it as a mismatch. -/
def Classified (ctx : IngestContext) (db : Db) (raw : Fields) (envelope : SessionEnvelope)
    (event : SessionEventRow) : Prop :=
  (SameContent ctx.ext event envelope ↔ Delivered ctx db raw) ∧
    (¬SameContent ctx.ext event envelope → ∃ ack, (ingestEnvelope ctx db raw).exit = .ok ack ∧
      ack.status = .rejected ∧ ack.errorCode = some .sequenceReuseMismatch)

/-- The hashes tell documents apart: that of the RFC 8785 form up to the value of
numbers, that of `json.dumps` up to the order of keys. -/
structure HashesFaithful (ext : Externals) : Prop where
  canonical : ∀ {p q : Fields} {a b : String}, ext.jcsHash p = some a → ext.jcsHash q = some b →
    (a = b ↔ JsonEq (.obj p) (.obj q))
  dumped : ∀ {p q : Fields} {a b : String}, ext.jcsHash p = some a → ext.jcsHash q = some b →
    (ext.dumpsHash (.obj p) = ext.dumpsHash (.obj q) ↔ SameJson (.obj p) (.obj q))

/-! ### What is stored under a number -/

/-- A sequenced event is that of an envelope: its kind is a message kind, and its
payload has a content hash. -/
def StoredMessages (ext : Externals) (db : Db) : Prop :=
  ∀ event ∈ db.sessionEvents, event.sequence.isSome = true →
    ∃ kind payload hash, event.kind = .message kind ∧ event.payload = some (.obj payload) ∧
      computeContentHash ext payload = some hash

theorem StoredMessages.of_change {ext : Externals} {spending : Prop} {handing : String → Prop}
    {db db' : Db} (h : StoredMessages ext db)
    (hchange : Change (fun under _ _ => under.ext = ext) spending handing db db') :
    StoredMessages ext db' := by
  intro event hmem hseq
  rcases hchange.mem_sessionEvents hmem hseq with
    hold | ⟨ctx, raw, envelope, _, _, _, _, before, now, _, hext, haccepts, rfl, -, -⟩
  · exact h event hold hseq
  · obtain ⟨_, _, -, hok⟩ := verified?_eq_some.mp haccepts.verified
    have hhash := (verifyAndBuildEnvelope_eq_ok.mp hok).2.2.1
    rw [hext] at hhash
    exact ⟨envelope.kind, envelope.payload, envelope.contentHash, rfl, rfl, hhash⟩

theorem permits_of_ext {ext : Externals} {calls : IngestContext → Fields → Prop}
    (h : ∀ ctx raw, calls ctx raw → ctx.ext = ext) :
    Permits (fun under _ _ => under.ext = ext) calls := by
  intro ctx raw hcall db under before envelope hhandles
  rcases hhandles with ⟨rfl, -, -⟩ | ⟨-, -, ⟨hext, -⟩, -⟩
  · exact h under raw hcall
  · exact hext.trans (h ctx raw hcall)

theorem storedMessages_activities {ext : Externals} (identity : Option String)
    (contacts : List ContactRow) (agents : List AgentRow) {activities : List Activity}
    (hcalls : ∀ activity ∈ activities, ∀ ctx raw, activity.calls ctx raw → ctx.ext = ext) :
    StoredMessages ext (run Activity.step (Db.fresh identity contacts agents) activities) :=
  activities_keep_of_permits (fun _ _ ha hchange => ha.of_change hchange)
    (fun activity hmem => permits_of_ext (hcalls activity hmem)) fun _ h => by cases h

/-- The event found under a number is the only one. -/
theorem storedEvent?_eq_of_mem {db : Db} (hlog : LogInvariant db) {event : SessionEventRow} {n : Nat}
    (hmem : event ∈ db.sessionEvents) (hseq : event.sequence = some n) :
    storedEvent? db event.sessionId event.actorUsername n = some event := by
  have hin : ∀ e ∈ db.sessionEvents, e.sessionId = event.sessionId →
      e ∈ db.eventsOf event.sessionId := by
    intro e he hsid
    rw [Db.eventsOf, List.mem_filter]
    exact ⟨he, by simp [hsid]⟩
  cases hfound : storedEvent? db event.sessionId event.actorUsername n with
  | none =>
      rw [storedEvent?, List.find?_eq_none] at hfound
      exact absurd (by simp [hseq]) (hfound event hmem)
  | some found =>
      have hprops := List.find?_some hfound
      simp only [Bool.and_eq_true, beq_iff_eq] at hprops
      have heq := (hlog.sequenced event.sessionId).unique
        (hin found (List.mem_of_find?_eq_some hfound) hprops.1.1) (hin event hmem rfl) hprops.1.2
        hprops.2 hseq
      rw [heq]

/-! ### The two hashes -/

section Compare

variable {ctx : IngestContext} {db : Db} {raw : Fields} {envelope : SessionEnvelope}
  {event : SessionEventRow}

/-- Under a stored number the call ends with one of two acknowledgements. -/
theorem answers_of_repeated (hver : verified? ctx db raw = some envelope)
    (hstored : storedEvent? db envelope.sessionId envelope.actorUsername envelope.sequence =
      some event) :
    (Delivered ctx db raw ↔ canonicalPayloadHash ctx.ext (some (.obj envelope.payload)) =
      canonicalPayloadHash ctx.ext event.payload) ∧
    (¬Delivered ctx db raw → ∃ ack, (ingestEnvelope ctx db raw).exit = .ok ack ∧
      ack.status = .rejected ∧ ack.errorCode = some .sequenceReuseMismatch) := by
  have hread := readFrom_of_verified hver
  have hexit := (ingestEnvelope_of_repeated hver hstored).2
  unfold Delivered
  rw [hexit]
  split
  · rename_i hhash
    have hok := deliveredAck_ok hread ctx
    exact ⟨⟨fun _ => hhash, fun _ => hok⟩, fun hno => absurd hok hno⟩
  · rename_i hhash
    obtain ⟨ack, hok, hstatus⟩ := rejectVerified_ok hread ctx (some .sequenceReuseMismatch)
      (some (.text "Sequence reuse mismatch: sequence number re-used with different content hash."))
    have hno : ¬∃ ack', rejectVerified ctx raw envelope (some .sequenceReuseMismatch) (some (.text
        "Sequence reuse mismatch: sequence number re-used with different content hash.")) =
          .ok ack' ∧ ack'.status = .delivered := by
      rintro ⟨ack', hok', hdelivered⟩
      cases hok.symm.trans hok'
      rw [hstatus] at hdelivered
      cases hdelivered
    exact ⟨⟨fun h => absurd h hno, fun h => absurd h hhash⟩,
      fun _ => ⟨ack, hok, hstatus, errorCode_of_acknowledgement hok⟩⟩

theorem jcsHash_of_computeContentHash {ext : Externals} {payload : Fields} {hash : String}
    (h : computeContentHash ext payload = some hash) : ext.jcsHash payload = some hash := by
  unfold computeContentHash at h
  split at h
  · exact h
  · cases h

/-- Another kind comes with another payload, and the same document is written the
same way. -/
def Distinguished (event : SessionEventRow) (envelope : SessionEnvelope) : Prop :=
  ∀ payload, event.payload = some (.obj payload) →
    (event.kind ≠ .message envelope.kind → ¬SameJson (.obj payload) (.obj envelope.payload)) ∧
    (event.kind = .message envelope.kind → JsonEq (.obj payload) (.obj envelope.payload) →
      SameJson (.obj payload) (.obj envelope.payload))

theorem classified_iff {payload : Fields} {hash : String} (hfaithful : HashesFaithful ctx.ext)
    (hver : verified? ctx db raw = some envelope)
    (hstored : storedEvent? db envelope.sessionId envelope.actorUsername envelope.sequence =
      some event)
    (hpayload : event.payload = some (.obj payload))
    (hhash : computeContentHash ctx.ext payload = some hash) :
    Classified ctx db raw envelope event ↔ Distinguished event envelope := by
  obtain ⟨_, _, -, hok⟩ := verified?_eq_some.mp hver
  have hcontent := (verifyAndBuildEnvelope_eq_ok.mp hok).2.2.1
  have hjcs := jcsHash_of_computeContentHash hhash
  have hjcs' := jcsHash_of_computeContentHash hcontent
  obtain ⟨hdelivered, hrejected⟩ := answers_of_repeated hver hstored
  have hdumped : Delivered ctx db raw ↔ SameJson (.obj payload) (.obj envelope.payload) := by
    rw [hdelivered, hpayload, eq_comm, ← hfaithful.dumped hjcs hjcs']
    rfl
  have hsame : SameContent ctx.ext event envelope ↔
      event.kind = .message envelope.kind ∧ JsonEq (.obj payload) (.obj envelope.payload) := by
    have hevent : contentHashOf ctx.ext event = some hash := by
      simp only [contentHashOf, hpayload, hhash]
    rw [SameContent, hevent, Option.some.injEq, hfaithful.canonical hjcs hjcs']
  have hcondition : Distinguished event envelope ↔
      (event.kind ≠ .message envelope.kind → ¬SameJson (.obj payload) (.obj envelope.payload)) ∧
      (event.kind = .message envelope.kind → JsonEq (.obj payload) (.obj envelope.payload) →
        SameJson (.obj payload) (.obj envelope.payload)) := by
    refine ⟨fun h => h payload hpayload, fun h payload' hpayload' => ?_⟩
    rw [hpayload] at hpayload'
    cases hpayload'
    exact h
  rw [hcondition, Classified, hsame, hdumped]
  constructor
  · rintro ⟨hiff, -⟩
    exact ⟨fun hkind h => hkind (hiff.mpr h).1, fun hkind heq => hiff.mp ⟨hkind, heq⟩⟩
  · rintro ⟨hother, hspelled⟩
    have hiff : event.kind = .message envelope.kind ∧
        JsonEq (.obj payload) (.obj envelope.payload) ↔
          SameJson (.obj payload) (.obj envelope.payload) := by
      refine ⟨fun h => hspelled h.1 h.2, fun h => ⟨?_, h.jsonEq⟩⟩
      by_contra hkind
      exact hother hkind h
    exact ⟨hiff, fun hno => hrejected fun h => hno (hiff.mpr (hdumped.mp h))⟩

end Compare

/-- In every run, a verified envelope under a number that is stored is
acknowledged exactly if it has the stored kind and content hash, and rejected as a
mismatch otherwise, if and only if another kind comes with another payload and the
same document is written the same way. -/
theorem sequence_reuse_classified_iff (ext : Externals) (hfaithful : HashesFaithful ext)
    (identity : Option String) (contacts : List ContactRow) (agents : List AgentRow)
    (activities : List Activity)
    (hcalls : ∀ activity ∈ activities, ∀ ctx raw, activity.calls ctx raw → ctx.ext = ext)
    (ctx : IngestContext) (hctx : ctx.ext = ext) (raw : Fields) :
    let db := run Activity.step (Db.fresh identity contacts agents) activities
    ∀ envelope event, verified? ctx db raw = some envelope → event ∈ db.sessionEvents →
      event.sessionId = envelope.sessionId → event.actorUsername = envelope.actorUsername →
      event.sequence = some envelope.sequence →
      (Classified ctx db raw envelope event ↔ Distinguished event envelope) := by
  intro db envelope event hver hmem hsid hactor hseq
  have hlog : LogInvariant db :=
    logInvariant_activities (logInvariant_fresh identity contacts agents) activities
  have hstored := storedEvent?_eq_of_mem hlog hmem hseq
  rw [hsid, hactor] at hstored
  obtain ⟨kind, payload, hash, -, hpayload, hhash⟩ :=
    storedMessages_activities identity contacts agents hcalls event hmem (by rw [hseq]; rfl)
  subst hctx
  exact classified_iff hfaithful hver hstored hpayload hhash

namespace Sample

open Kin.Transport.Sample

def fill (c : Char) : String := String.ofList (List.replicate 43 c)

/-- The payload `{"n": v}`. -/
def numbered (v : Json) : Fields := [(.text "n", v)]

/-- Hashes for the payloads `{"n": 1}` and `{"n": 1.0}`: one RFC 8785 form, two
texts of `json.dumps`. -/
def oneHashes : Externals :=
  { externals with
    jcsHash := fun fields =>
      match fields with
      | [(.text key, v)] =>
          if key = "n" ∧ v.number? = some 1 then some (fill 'A') else none
      | _ => none
    dumpsHash := fun v =>
      match v with
      | .obj [(_, .int _)] => "int"
      | _ => "float" }

theorem jcsHash_oneHashes {p : Fields} {a : String} (h : oneHashes.jcsHash p = some a) :
    a = fill 'A' ∧ (p = numbered (.int 1) ∨ p = numbered (.float (.finite 1))) := by
  simp only [oneHashes] at h
  split at h
  · rename_i key v
    split at h
    · rename_i hone
      obtain ⟨rfl, hnumber⟩ := hone
      refine ⟨(Option.some.inj h).symm, ?_⟩
      cases v with
      | int n =>
          left
          have hn : n = 1 := by
            have := Option.some.inj hnumber
            exact_mod_cast this
          rw [hn]
          rfl
      | float x =>
          right
          cases x with
          | finite q =>
              rw [Option.some.inj hnumber]
              rfl
          | negZero => exact absurd (Option.some.inj hnumber) (by decide)
          | nan => cases hnumber
          | inf negative => cases hnumber
      | null => cases hnumber
      | bool b => cases hnumber
      | str s => cases hnumber
      | arr items => cases hnumber
      | obj fields => cases hnumber
    · cases h
  · cases h

theorem lookup_numbered (v : Json) (key : PyStr) :
    Fields.lookup (numbered v) key = if .text "n" = key then some v else none := by
  unfold Fields.lookup numbered
  by_cases h : PyStr.text "n" = key
  · simp [h]
  · simp [h]

theorem alike_numbered {leaves : Json → Json → Prop} {v w : Json} :
    Alike leaves (.obj (numbered v)) (.obj (numbered w)) ↔
      leaves (.obj (numbered v)) (.obj (numbered w)) ∨ Alike leaves v w := by
  constructor
  · intro h
    generalize hv : Json.obj (numbered v) = a at h
    generalize hw : Json.obj (numbered w) = b at h
    cases h with
    | refl =>
        rw [← hw] at hv
        have heq : v = w := by simpa [numbered] using hv
        rw [heq]
        exact .inr (.refl w)
    | leaf h => exact .inl h
    | arr _ _ => cases hv
    | obj keys values =>
        cases hv
        cases hw
        exact .inr (values (.text "n") v w (by simp [lookup_numbered]) (by simp [lookup_numbered]))
  · rintro (h | h)
    · exact .leaf h
    · refine .obj (fun key => ?_) fun key a b ha hb => ?_
      · rw [lookup_numbered, lookup_numbered]
        split <;> rfl
      · rw [lookup_numbered] at ha hb
        split at ha
        · rename_i hkey
          rw [if_pos hkey] at hb
          cases ha
          cases hb
          exact h
        · cases ha

theorem hashesFaithful_oneHashes : HashesFaithful oneHashes where
  canonical hp hq := by
    obtain ⟨ha, hp⟩ := jcsHash_oneHashes hp
    obtain ⟨hb, hq⟩ := jcsHash_oneHashes hq
    refine iff_of_true (ha.trans hb.symm) ?_
    rcases hp with rfl | rfl <;> rcases hq with rfl | rfl <;>
      exact alike_numbered.mpr (.inr (.leaf ⟨1, rfl, rfl⟩))
  dumped hp hq := by
    have hdiffer : ∀ {v w : Json}, v ≠ w → (∀ items, v ≠ .arr items) → (∀ fields, v ≠ .obj fields) →
        ¬SameJson v w := by
      intro v w hne harr hobj h
      cases h with
      | refl => exact hne rfl
      | leaf h => exact h
      | arr _ _ => exact harr _ rfl
      | obj _ _ => exact hobj _ rfl
    rcases (jcsHash_oneHashes hp).2 with rfl | rfl <;>
      rcases (jcsHash_oneHashes hq).2 with rfl | rfl <;>
      simp only [SameJson, alike_numbered, false_or]
    · exact iff_of_true trivial (.refl _)
    · exact iff_of_false (by decide) (hdiffer (by simp) (by simp) (by simp))
    · exact iff_of_false (by decide) (hdiffer (by simp) (by simp) (by simp))
    · exact iff_of_true trivial (.refl _)

def oneContext : IngestContext := { context with ext := oneHashes }

/-- An envelope of `alice` with number 1. -/
def first (kind : MessageKind) (v : Json) : Fields :=
  withSignature externals
    (unsignedEnvelope "s1" "alice" "scout" (isoNow time) (fill 'A') 1 kind (numbered v)) "alice"

/-- `alice`'s request `{"n": 1}` reached `bob`. -/
def requested : List Activity := [.operation (.ingest oneContext (first .taskRequest (.int 1)))]

def requestedDb : Db := run Activity.step bobDb requested

/-- The node that has the request, decided together: the stored event, and what becomes of the
request again, of a proposal over its payload and of the request with `1.0` for `1`. -/
theorem requestedDb_facts :
    (requestedDb.sessionEvents.any fun event => decide (event.sessionId = "s1" ∧
      event.actorUsername = "alice" ∧ event.sequence = some 1 ∧
      event.kind = .message .taskRequest ∧ contentHashOf oneHashes event = some (fill 'A'))) =
        true ∧
    ((verified? oneContext requestedDb (first .taskRequest (.int 1))).isSome = true ∧
      answer oneContext requestedDb (first .taskRequest (.int 1)) = some .delivered) ∧
    ((verified? oneContext requestedDb (first .proposal (.int 1))).isSome = true ∧
      answer oneContext requestedDb (first .proposal (.int 1)) = some .delivered) ∧
    ((verified? oneContext requestedDb (first .taskRequest (.float (.finite 1)))).isSome = true ∧
      answer oneContext requestedDb (first .taskRequest (.float (.finite 1))) =
        some .rejected) := by
  decide +kernel

/-- The stored request and the envelope that comes under its number. -/
structure Reused (raw : Fields) (envelope : SessionEnvelope) (event : SessionEventRow) : Prop where
  verified : verified? oneContext requestedDb raw = some envelope
  stored : event ∈ requestedDb.sessionEvents
  sessionId : event.sessionId = envelope.sessionId
  actorUsername : event.actorUsername = envelope.actorUsername
  sequence : event.sequence = some envelope.sequence
  kind : event.kind = .message .taskRequest
  contentHash : contentHashOf oneHashes event = some (fill 'A')

theorem reused_first (kind : MessageKind) (v : Json)
    (h : (verified? oneContext requestedDb (first kind v)).isSome = true) :
    ∃ envelope event, Reused (first kind v) envelope event ∧ envelope.kind = kind ∧
      envelope.contentHash = fill 'A' := by
  obtain ⟨envelope, hver⟩ := Option.isSome_iff_exists.mp h
  have hspells := spells_of_validateEnvelope (validateEnvelope_of_verified hver)
  have hsid : Json.text "s1" = .text envelope.sessionId := Option.some.inj hspells.sessionId
  have hactor : Json.text "alice" = .text envelope.actorUsername :=
    Option.some.inj hspells.actorUsername
  have hseq : Json.int 1 = .int envelope.sequence := Option.some.inj hspells.sequence
  have hkind : Json.text kind.value = .text envelope.kind.value := Option.some.inj hspells.kind
  have hhash : Json.text (fill 'A') = .text envelope.contentHash :=
    Option.some.inj hspells.contentHash
  simp only [Json.str.injEq, PyStr.text.injEq, MessageKind.value_inj, Json.int.injEq]
    at hsid hactor hseq hkind hhash
  have hseq' : envelope.sequence = 1 := by omega
  obtain ⟨event, hstored, hevent⟩ := List.any_eq_true.mp requestedDb_facts.1
  obtain ⟨hesid, heactor, heseq, hekind, hehash⟩ := of_decide_eq_true hevent
  refine ⟨envelope, event, ?_, hkind.symm, hhash.symm⟩
  exact
    { verified := hver
      stored := hstored
      sessionId := hesid.trans hsid
      actorUsername := heactor.trans hactor
      sequence := by rw [heseq, hseq']
      kind := hekind
      contentHash := hehash }

end Sample

/-- The same request again is classified as it should be. -/
theorem resent_request_classified :
    ∃ envelope event, Sample.Reused (Sample.first .taskRequest (.int 1)) envelope event ∧
      Classified Sample.oneContext Sample.requestedDb (Sample.first .taskRequest (.int 1)) envelope
        event ∧
      Distinguished event envelope := by
  obtain ⟨hverified, hanswer⟩ := Sample.requestedDb_facts.2.1
  obtain ⟨envelope, event, hreused, hkind, hhash⟩ :=
    Sample.reused_first .taskRequest (.int 1) hverified
  have hdelivered : Delivered Sample.oneContext Sample.requestedDb
      (Sample.first .taskRequest (.int 1)) := Sample.delivered_of_answer hanswer
  have hsame : SameContent Sample.oneContext.ext event envelope :=
    ⟨by rw [hreused.kind, hkind], by rw [hhash]; exact hreused.contentHash⟩
  have hclassified : Classified Sample.oneContext Sample.requestedDb
      (Sample.first .taskRequest (.int 1)) envelope event :=
    ⟨iff_of_true hsame hdelivered, fun hno => absurd hsame hno⟩
  refine ⟨envelope, event, hreused, hclassified, ?_⟩
  refine (sequence_reuse_classified_iff Sample.oneHashes Sample.hashesFaithful_oneHashes
    (some "bob") [] [] Sample.requested ?_ Sample.oneContext rfl _ envelope event hreused.verified
    hreused.stored hreused.sessionId hreused.actorUsername hreused.sequence).mp hclassified
  intro activity hmem ctx raw hcall
  rw [List.mem_singleton.mp hmem] at hcall
  rw [hcall.1]
  rfl

/-- A proposal over the payload of the request is acknowledged as its duplicate,
and the request with `1.0` for `1` is rejected, under the same content hash. -/
theorem reuse_misclassified :
    (∃ envelope event, Sample.Reused (Sample.first .proposal (.int 1)) envelope event ∧
      ¬Classified Sample.oneContext Sample.requestedDb (Sample.first .proposal (.int 1)) envelope
        event) ∧
    ∃ envelope event,
      Sample.Reused (Sample.first .taskRequest (.float (.finite 1))) envelope event ∧
      ¬Classified Sample.oneContext Sample.requestedDb
        (Sample.first .taskRequest (.float (.finite 1))) envelope event := by
  constructor
  · obtain ⟨hverified, hanswer⟩ := Sample.requestedDb_facts.2.2.1
    obtain ⟨envelope, event, hreused, hkind, -⟩ := Sample.reused_first .proposal (.int 1) hverified
    refine ⟨envelope, event, hreused, fun hclassified => ?_⟩
    have hsame := hclassified.1.mpr (Sample.delivered_of_answer hanswer)
    have hwrong := hsame.1
    rw [hreused.kind, hkind] at hwrong
    cases hwrong
  · obtain ⟨hverified, hanswer⟩ := Sample.requestedDb_facts.2.2.2
    obtain ⟨envelope, event, hreused, hkind, hhash⟩ :=
      Sample.reused_first .taskRequest (.float (.finite 1)) hverified
    refine ⟨envelope, event, hreused, fun hclassified => ?_⟩
    obtain ⟨ack, hexit, hstatus⟩ := hclassified.1.mp
      ⟨by rw [hreused.kind, hkind], by rw [hhash]; exact hreused.contentHash⟩
    simp [Sample.answer, hexit, Except.toOption, hstatus] at hanswer

end Kin.Node
