import Kin.Gateway.CanonicalText
import Kin.Gateway.CardFetch
import Kin.Lib.Substring

/-!
What the search for private references finds. It goes over the serialised card: a value without
a quote, a backslash and a control character is found there wherever a string of the card has
it, and a value with one of these is written with escapes in between.
-/

namespace Kin.Gateway

open Kin.Py Kin.Lib

/-! ### Escapes and case -/

/-- A code point that a JSON string has to escape. -/
def isEscaped (c : Nat) : Bool := decide (c < 0x20 ∨ c = 0x22 ∨ c = 0x5C)

theorem escapeJson_of_not_escaped {c : Nat} (h : isEscaped c = false) : escapeJson c = [c] := by
  rw [isEscaped, decide_eq_false_iff_not, not_or, not_or, not_lt] at h
  exact escapeJson_of_plain h.1 h.2.1 h.2.2

namespace CaseFolding

variable (folding : CaseFolding)

theorem fold_of_escaped {c : Nat} (h : isEscaped c = true) : folding.fold c = [c] := by
  rw [isEscaped, decide_eq_true_eq] at h
  rw [folding.ascii c (by omega), if_neg (by omega)]

theorem not_escaped_of_mem_fold {c x : Nat} (h : isEscaped c = false) (hx : x ∈ folding.fold c) :
    isEscaped x = false := by
  rw [isEscaped, decide_eq_false_iff_not] at h ⊢
  by_cases hascii : c < 0x80
  · rw [folding.ascii c hascii, List.mem_singleton] at hx
    split at hx <;> omega
  · have := folding.beyond c (by omega) x hx
    omega

theorem not_escaped_of_mem_casefold {text : List Nat} (h : ∀ c ∈ text, isEscaped c = false) :
    ∀ x ∈ folding.casefold text, isEscaped x = false := by
  intro x hx
  obtain ⟨c, hc, hx⟩ := List.mem_flatMap.mp hx
  exact folding.not_escaped_of_mem_fold (h c hc) hx

/-- Escaping changes the folded text only at what is escaped. -/
theorem sameWithin_escape : SameWithin (fun x => isEscaped x = false) folding.fold
    fun c => (escapeJson c).flatMap folding.fold := by
  intro c
  cases h : isEscaped c with
  | false =>
      left
      simp only [escapeJson_of_not_escaped h, List.flatMap_singleton]
  | true => exact .inr ⟨c, folding.fold_of_escaped h, by simp [h]⟩

theorem casefold_infix_jsonString {text value : List Nat}
    (hplain : ∀ c ∈ value, isEscaped c = false)
    (h : folding.casefold value <:+: folding.casefold text) :
    folding.casefold value <:+: folding.casefold (jsonString text) := by
  have hinner := infix_flatMap_of_sameWithin folding.sameWithin_escape
    (folding.not_escaped_of_mem_casefold hplain) h
  rw [← List.flatMap_assoc] at hinner
  refine hinner.trans ?_
  have hquoted : text.flatMap escapeJson <:+: jsonString text := ⟨[0x22], [0x22], rfl⟩
  exact hquoted.flatMap folding.fold

end CaseFolding

/-! ### The strings of a document -/

mutual

def stringsOf : Json → List (List Nat)
  | .str s => [s.codePoints]
  | .arr items => stringsOfItems items
  | .obj members => stringsOfMembers members
  | _ => []

def stringsOfItems : List Json → List (List Nat)
  | [] => []
  | item :: items => stringsOf item ++ stringsOfItems items

def stringsOfMembers : List (PyStr × Json) → List (List Nat)
  | [] => []
  | (key, value) :: members => key.codePoints :: (stringsOf value ++ stringsOfMembers members)

end

variable (floatText : PyFloat → String)

theorem dumpsItems_cons (item : Json) (items : List Json) :
    ∃ rest, dumpsItems floatText (item :: items) = dumpsJson floatText item ++ rest ∧
      dumpsItems floatText items <:+: rest := by
  cases items with
  | nil => exact ⟨[], by simp [dumpsItems], by simp [dumpsItems]⟩
  | cons next items => exact ⟨_, rfl, List.infix_append_right⟩

theorem dumpsMembers_cons (key : PyStr) (value : Json) (members : List (PyStr × Json)) :
    ∃ rest, dumpsMembers floatText ((key, value) :: members) = jsonString key.codePoints ++
        (codePoints ": " ++ (dumpsJson floatText value ++ rest)) ∧
      dumpsMembers floatText members <:+: rest := by
  cases members with
  | nil => exact ⟨[], by simp [dumpsMembers], by simp [dumpsMembers]⟩
  | cons next members => exact ⟨_, rfl, List.infix_append_right⟩

mutual

theorem jsonString_infix_dumpsJson (document : Json) {text : List Nat}
    (h : text ∈ stringsOf document) : jsonString text <:+: dumpsJson floatText document := by
  cases document with
  | str s =>
      rw [stringsOf, List.mem_singleton] at h
      rw [h, dumpsJson]
  | arr items =>
      rw [stringsOf] at h
      rw [dumpsJson]
      exact (jsonString_infix_dumpsItems items h).trans ⟨[0x5B], [0x5D], rfl⟩
  | obj members =>
      rw [stringsOf] at h
      rw [dumpsJson]
      exact (jsonString_infix_dumpsMembers members h).trans ⟨[0x7B], [0x7D], rfl⟩
  | null => cases h
  | bool b => cases h
  | int n => cases h
  | float x => cases h

theorem jsonString_infix_dumpsItems (items : List Json) {text : List Nat}
    (h : text ∈ stringsOfItems items) : jsonString text <:+: dumpsItems floatText items := by
  cases items with
  | nil => cases h
  | cons item items =>
      obtain ⟨rest, hrest, htail⟩ := dumpsItems_cons floatText item items
      rw [hrest]
      rw [stringsOfItems, List.mem_append] at h
      rcases h with h | h
      · exact (jsonString_infix_dumpsJson item h).trans List.infix_append_left
      · exact ((jsonString_infix_dumpsItems items h).trans htail).trans List.infix_append_right

theorem jsonString_infix_dumpsMembers (members : List (PyStr × Json)) {text : List Nat}
    (h : text ∈ stringsOfMembers members) :
    jsonString text <:+: dumpsMembers floatText members := by
  cases members with
  | nil => cases h
  | cons member members =>
      obtain ⟨key, value⟩ := member
      obtain ⟨rest, hrest, htail⟩ := dumpsMembers_cons floatText key value members
      rw [hrest]
      rw [stringsOfMembers, List.mem_cons, List.mem_append] at h
      rcases h with rfl | h | h
      · exact List.infix_append_left
      · exact (((jsonString_infix_dumpsJson value h).trans List.infix_append_left).trans
          List.infix_append_right).trans List.infix_append_right
      · exact ((((jsonString_infix_dumpsMembers members h).trans htail).trans
          List.infix_append_right).trans List.infix_append_right).trans List.infix_append_right

end

/-! ### What is private, and what is published -/

namespace AgentCardMirror

variable {urlsplit : List Char → Except PyExc SplitResult} (mirror : AgentCardMirror urlsplit)

/-- A reference that has to stay private after these requests: the base URL, the upstream origin,
or all or the payload of the value of a credential header. -/
def IsPrivate (parsed : SplitResult) (requests : List CardRequest) (value : String) : Prop :=
  value ≠ "" ∧
    (value = String.ofList mirror.settings.upstreamBaseUrl ∨ value = upstreamOrigin parsed ∨
      ∃ request ∈ requests, ∃ h ∈ request.credential,
        value = h.2 ∨ afterSpace h.2 = some value)

/-- A string or a key of the document has the value, ignoring case. -/
def Mentions (document : Json) (value : String) : Prop :=
  ∃ text ∈ stringsOf document, mirror.folding.contains text (codePoints value) = true

/-- No document that a refresh returns mentions a private reference. -/
def NothingPrivatePublished : Prop :=
  ∀ requests snapshot parsed, mirror.refresh = (requests, .ok snapshot) →
    urlsplit mirror.settings.upstreamBaseUrl = .ok parsed →
      ∀ value, mirror.IsPrivate parsed requests value → ¬mirror.Mentions snapshot.document value

/-- Where the public card of the fetched card mentions a private reference with a quote, a
backslash or a control character, some private reference is in its serialisation. -/
def EscapedAreFound : Prop :=
  ∀ requests card known shown parsed, mirror.fetchCard = (requests, .ok (card, known)) →
    mirror.publicCard card = .ok shown → urlsplit mirror.settings.upstreamBaseUrl = .ok parsed →
      ∀ value, mirror.IsPrivate parsed requests value →
        (∃ c ∈ codePoints value, isEscaped c = true) →
          mirror.Mentions (mirror.messageToDict shown) value →
            ∃ found, mirror.IsPrivate parsed requests found ∧
              mirror.discloses (mirror.messageToDict shown) found = true

theorem mem_credentialValues {credential : Headers} {value : String} :
    value ∈ credentialValues credential ↔
      ∃ h ∈ credential, value = h.2 ∨ afterSpace h.2 = some value := by
  unfold credentialValues
  simp only [List.mem_flatMap, List.mem_cons, Option.mem_toList]

theorem known_of_fetchCard {requests : List CardRequest} {card : AgentCard}
    {known : List String} (h : mirror.fetchCard = (requests, .ok (card, known))) :
    known = requests.flatMap fun request => credentialValues request.credential := by
  unfold fetchCard at h
  split at h
  · cases h
  rename_i logicalUrl _
  dsimp only at h
  split at h
  · cases h
  rename_i document known' hfetched
  split at h
  · cases h
  cases h
  unfold fetchDocument at hfetched ⊢
  split at hfetched
  · cases hfetched
  · obtain ⟨hknown, -⟩ := mirror.fetched_of_fetchFrom hfetched
    rw [hknown, List.nil_append]

/-- What is searched for is what is private. -/
theorem mem_forbidden {parsed : SplitResult} {requests : List CardRequest} {value : String} :
    value ∈ mirror.forbidden parsed
        (requests.flatMap fun request => credentialValues request.credential) ∧ value ≠ "" ↔
      mirror.IsPrivate parsed requests value := by
  unfold forbidden IsPrivate
  simp only [List.mem_cons, List.mem_flatMap, mem_credentialValues]
  exact and_comm

/-- The search refuses a document exactly if it finds a private reference. -/
theorem ensureNoPrivateReference_ok {parsed : SplitResult} {requests : List CardRequest}
    (hparsed : urlsplit mirror.settings.upstreamBaseUrl = .ok parsed) (document : Json) :
    mirror.ensureNoPrivateReference document
        (requests.flatMap fun request => credentialValues request.credential) = .ok () ↔
      ∀ value, mirror.IsPrivate parsed requests value →
        mirror.discloses document value = false := by
  unfold ensureNoPrivateReference
  rw [hparsed]
  dsimp only
  split
  · rename_i hfound
    obtain ⟨value, hvalue, hdiscloses⟩ := List.any_eq_true.mp hfound
    constructor
    · intro h
      cases h
    · intro h
      have hnonempty : value ≠ "" := by
        rintro rfl
        cases hdiscloses
      rw [h value (mirror.mem_forbidden.mp ⟨hvalue, hnonempty⟩)] at hdiscloses
      cases hdiscloses
  · rename_i hnone
    rw [Bool.not_eq_true, List.any_eq_false] at hnone
    refine iff_of_true rfl fun value hvalue => ?_
    exact Bool.eq_false_iff.mpr (hnone value (mirror.mem_forbidden.mpr hvalue).1)

/-- A refresh that fetched a card returns its public card, where nothing private is found. -/
theorem publish_ok {requests : List CardRequest} {card : AgentCard} {snapshot : MirroredAgentCard}
    {parsed : SplitResult} (hparsed : urlsplit mirror.settings.upstreamBaseUrl = .ok parsed)
    (h : mirror.publish card
      (requests.flatMap fun request => credentialValues request.credential) = .ok snapshot) :
    ∃ shown, mirror.publicCard card = .ok shown ∧
      snapshot.document = mirror.messageToDict shown ∧
        ∀ value, mirror.IsPrivate parsed requests value →
          mirror.discloses snapshot.document value = false := by
  unfold publish at h
  split at h
  · cases h
  rename_i shown hshown
  dsimp only at h
  split at h
  · cases h
  rename_i hfound
  cases h
  exact ⟨shown, hshown, rfl, (mirror.ensureNoPrivateReference_ok hparsed _).mp hfound⟩

/-- And it does return it then. -/
theorem publish_of_not_discloses {requests : List CardRequest} {card shown : AgentCard}
    {parsed : SplitResult} (hparsed : urlsplit mirror.settings.upstreamBaseUrl = .ok parsed)
    (hshown : mirror.publicCard card = .ok shown)
    (h : ∀ value, mirror.IsPrivate parsed requests value →
      mirror.discloses (mirror.messageToDict shown) value = false) :
    ∃ snapshot, snapshot.document = mirror.messageToDict shown ∧ mirror.publish card
      (requests.flatMap fun request => credentialValues request.credential) = .ok snapshot := by
  have hfound := (mirror.ensureNoPrivateReference_ok hparsed _).mpr h
  unfold publish
  rw [hshown]
  dsimp only
  rw [hfound]
  exact ⟨_, rfl, rfl⟩

/-- The search finds a private reference without escapes wherever it is mentioned. -/
theorem discloses_of_mentions {document : Json} {value : String} (hvalue : value ≠ "")
    (hplain : ∀ c ∈ codePoints value, isEscaped c = false) (h : mirror.Mentions document value) :
    mirror.discloses document value = true := by
  obtain ⟨text, htext, hcontains⟩ := h
  have hquoted := mirror.folding.casefold_infix_jsonString hplain (of_decide_eq_true hcontains)
  have hserialised : mirror.folding.casefold (jsonString text) <:+:
      mirror.folding.casefold (dumpsJson mirror.floatText document) :=
    (jsonString_infix_dumpsJson mirror.floatText document htext).flatMap mirror.folding.fold
  unfold discloses
  rw [Bool.and_eq_true]
  exact ⟨bne_iff_ne.mpr hvalue, decide_eq_true (hquoted.trans hserialised)⟩

/-- Nothing private is published exactly if the references that need escapes are found or do not
occur. -/
theorem nothing_private_published_iff :
    mirror.NothingPrivatePublished ↔ mirror.EscapedAreFound := by
  constructor
  · intro h requests card known shown parsed hfetched hshown hparsed value hprivate _ hmentions
    by_contra hnone
    rw [not_exists] at hnone
    have hrefused : ∀ found, mirror.IsPrivate parsed requests found →
        mirror.discloses (mirror.messageToDict shown) found = false := by
      intro found hfound
      exact Bool.eq_false_iff.mpr fun hdiscloses => hnone found ⟨hfound, hdiscloses⟩
    obtain ⟨snapshot, hdocument, hpublish⟩ :=
      mirror.publish_of_not_discloses hparsed hshown hrefused
    have hrefresh : mirror.refresh = (requests, .ok snapshot) := by
      unfold refresh
      rw [hfetched, mirror.known_of_fetchCard hfetched]
      dsimp only
      rw [hpublish]
    rw [← hdocument] at hmentions
    exact h requests snapshot parsed hrefresh hparsed value hprivate hmentions
  · intro h requests snapshot parsed hrefresh hparsed value hprivate hmentions
    unfold refresh at hrefresh
    split at hrefresh
    · cases hrefresh
    rename_i requests' card known hfetched
    obtain ⟨rfl, hpublish⟩ := Prod.mk.inj hrefresh
    rw [mirror.known_of_fetchCard hfetched] at hpublish
    obtain ⟨shown, hshown, hdocument, hnone⟩ := mirror.publish_ok hparsed hpublish
    by_cases hescaped : ∃ c ∈ codePoints value, isEscaped c = true
    · rw [hdocument] at hmentions hnone
      obtain ⟨found, hfound, hdiscloses⟩ :=
        h _ _ _ _ _ hfetched hshown hparsed value hprivate hescaped hmentions
      rw [hnone found hfound] at hdiscloses
      cases hdiscloses
    · have hplain : ∀ c ∈ codePoints value, isEscaped c = false := by
        intro c hc
        exact Bool.eq_false_iff.mpr fun h => hescaped ⟨c, hc, h⟩
      have hdiscloses := mirror.discloses_of_mentions hprivate.1 hplain hmentions
      rw [hnone value hprivate] at hdiscloses
      cases hdiscloses

/-- No private reference needs an escape. -/
theorem escapedAreFound_of_plain
    (h : ∀ parsed requests value, mirror.IsPrivate parsed requests value →
      ∀ c ∈ codePoints value, isEscaped c = false) : mirror.EscapedAreFound := by
  intro requests card known shown parsed _ _ _ value hprivate hescaped
  obtain ⟨c, hc, hescaped⟩ := hescaped
  rw [h parsed requests value hprivate c hc] at hescaped
  cases hescaped

end AgentCardMirror

namespace Sample

theorem defaultBytes_inRange : 1 ≤ 262144 ∧ 262144 ≤ 4194304 := by decide

theorem defaultRedirects_inRange : 3 ≤ 10 := by decide

def mirrorSettings : MirrorSettings splitAgentExample :=
  { rootSettings with
    publicBaseUrl := "https://gateway.example", approvedSkillIds := ["search"]
    trustedPrivateHosts := ["agent.example"]
    bytesInRange := defaultBytes_inRange
    redirectsInRange := defaultRedirects_inRange }

def talkativeCard : AgentCard where
  name := "agent"
  description := "send pass\"word"
  version := "1"
  defaultInputModes := []
  defaultOutputModes := []
  streaming := false
  supportedInterfaces := [{ url := "", protocolBinding := "JSONRPC", protocolVersion := "1.0" }]
  skills := [{ id := "search" }]

def textDict (text : String) : Json := .str (.text text)

/-- `MessageToDict` of a card. -/
def cardDict (card : AgentCard) : Json :=
  .obj
    [(.text "name", textDict card.name),
      (.text "description", textDict card.description),
      (.text "supportedInterfaces", .arr (card.supportedInterfaces.map fun interface => .obj
        [(.text "url", textDict interface.url),
          (.text "protocolBinding", textDict interface.protocolBinding),
          (.text "protocolVersion", textDict interface.protocolVersion)])),
      (.text "version", textDict card.version),
      (.text "capabilities", .obj [(.text "streaming", .bool card.streaming)]),
      (.text "defaultInputModes", .arr (card.defaultInputModes.map textDict)),
      (.text "defaultOutputModes", .arr (card.defaultOutputModes.map textDict)),
      (.text "skills", .arr (card.skills.map fun skill => .obj [(.text "id", textDict skill.id)]))]

/-- A mirror with a credential that has a quote in it, and the upstream of that card. -/
def quotedMirror : AgentCardMirror splitAgentExample :=
  { mirrorExample mirrorSettings with
    headersFor := fun _ _ => .ok [("x-api-key", "pass\"word")]
    stream := fun _ _ => .ok
      { status := 200, headers := []
        chunks := [.ok ((dumpsJson (fun _ => "") (cardDict talkativeCard)).flatMap utf8Bytes)] }
    loads := fun _ => .ok (cardDict talkativeCard)
    parseDict := fun _ => .ok talkativeCard
    messageToDict := cardDict }

def quotedRequest : CardRequest where
  logicalUrl := "https://agent.example/.well-known/agent-card.json".toList
  credential := [("x-api-key", "pass\"word")]
  url := "https://agent.example/.well-known/agent-card.json".toList
  headers := [("x-api-key", "pass\"word")]
  sniHostname := none

def quotedValues : List String := AgentCardMirror.credentialValues quotedRequest.credential

set_option maxRecDepth 20000 in
theorem fetchCard_quotedMirror :
    quotedMirror.fetchCard = ([quotedRequest], .ok (talkativeCard, quotedValues)) := rfl

def shownCard : AgentCard :=
  { talkativeCard with supportedInterfaces := quotedMirror.publicInterfaces talkativeCard }

theorem publicCard_quotedMirror : quotedMirror.publicCard talkativeCard = .ok shownCard := rfl

end Sample

open Sample in
/-- A credential with a quote is published. -/
theorem quoted_credential_published : ¬quotedMirror.NothingPrivatePublished := by
  intro h
  obtain ⟨parsed, hparsed, hnone⟩ :
      ∃ parsed, splitAgentExample quotedMirror.settings.upstreamBaseUrl = .ok parsed ∧
        (quotedMirror.forbidden parsed quotedValues).any
          (quotedMirror.discloses (cardDict shownCard)) = false :=
    ⟨_, rfl, by decide +kernel⟩
  have hfound : quotedMirror.ensureNoPrivateReference (cardDict shownCard) quotedValues =
      .ok () := by
    unfold AgentCardMirror.ensureNoPrivateReference
    rw [hparsed]
    dsimp only
    rw [hnone, if_neg Bool.false_ne_true]
  have hrefresh : quotedMirror.refresh = ([quotedRequest], .ok
      { document := cardDict shownCard, sourceSha256 := "", publicSha256 := "" }) := by
    unfold AgentCardMirror.refresh
    rw [fetchCard_quotedMirror]
    dsimp only
    unfold AgentCardMirror.publish
    rw [publicCard_quotedMirror]
    dsimp only
    have hdocument : quotedMirror.messageToDict shownCard = cardDict shownCard := rfl
    rw [hdocument, hfound]
    rfl
  have hprivate : quotedMirror.IsPrivate parsed [quotedRequest] "pass\"word" :=
    ⟨by decide, .inr (.inr ⟨quotedRequest, List.mem_singleton_self _, _,
      List.mem_singleton_self _, .inl rfl⟩)⟩
  refine h _ _ parsed hrefresh hparsed _ hprivate ⟨codePoints talkativeCard.description, ?_, ?_⟩
  · exact .tail _ (.tail _ (.tail _ (.head _)))
  · decide +kernel

end Kin.Gateway
