import Kin.Adapters.Base

/-!
What the screening of an adapter's answer covers. The search for keys stops at a tuple, and
the search for secrets reads neither approval requests nor artifacts.
-/

namespace Kin.Adapters

open Kin.Py Kin.Lib Kin.Policy Kin.Schemas

/-! ### Keys at any depth -/

/-- The second value is the first or stands in it at some depth, with or without the members
of tuples. -/
inductive Within (tuples : Bool) : PyObj → PyObj → Prop
  | refl (o : PyObj) : Within tuples o o
  | field {fields : List (DictKey × PyObj)} {key : DictKey} {value o : PyObj}
      (h : (key, value) ∈ fields) (hin : Within tuples value o) : Within tuples (.dict fields) o
  | item {items : List PyObj} {value o : PyObj} (h : value ∈ items)
      (hin : Within tuples value o) : Within tuples (.list items) o
  | member {items : List PyObj} {value o : PyObj} (htuples : tuples = true) (h : value ∈ items)
      (hin : Within tuples value o) : Within tuples (.tuple items) o

def HasKey (tuples : Bool) (o : PyObj) (key : DictKey) : Prop :=
  ∃ fields value, Within tuples o (.dict fields) ∧ (key, value) ∈ fields

/-- A tuple that is reached without passing through another has the key in it. -/
def KeyInTuple (o : PyObj) (key : DictKey) : Prop :=
  ∃ items, Within false o (.tuple items) ∧ ∃ value ∈ items, HasKey true value key

def DictKey.Plain : DictKey → Prop
  | .text key => lower key ∉ forbiddenReasoningKeys
  | .other => False

section

variable {tuples : Bool} {o : PyObj} {key : DictKey}

theorem hasKey_dict {fields : List (DictKey × PyObj)} : HasKey tuples (.dict fields) key ↔
    ∃ field ∈ fields, field.1 = key ∨ HasKey tuples field.2 key := by
  constructor
  · rintro ⟨fields', value, hwithin, hmem⟩
    cases hwithin with
    | refl => exact ⟨_, hmem, .inl rfl⟩
    | field h hin => exact ⟨_, h, .inr ⟨fields', value, hin, hmem⟩⟩
  · rintro ⟨⟨key', value⟩, hmem, rfl | ⟨fields', value', hin, hmem'⟩⟩
    · exact ⟨fields, value, .refl _, hmem⟩
    · exact ⟨fields', value', .field hmem hin, hmem'⟩

theorem hasKey_list {items : List PyObj} : HasKey tuples (.list items) key ↔
    ∃ item ∈ items, HasKey tuples item key := by
  constructor
  · rintro ⟨fields, value, hwithin, hmem⟩
    cases hwithin with
    | item h hin => exact ⟨_, h, fields, value, hin, hmem⟩
  · rintro ⟨item, h, fields, value, hin, hmem⟩
    exact ⟨fields, value, .item h hin, hmem⟩

theorem not_hasKey_tuple {items : List PyObj} : ¬HasKey false (.tuple items) key := by
  rintro ⟨fields, value, hwithin, -⟩
  cases hwithin with
  | member htuples => cases htuples

theorem Within.weaken {o o' : PyObj} (h : Within false o o') : Within true o o' := by
  induction h with
  | refl o => exact .refl o
  | field h hin ih => exact .field h ih
  | item h hin ih => exact .item h ih
  | member htuples => cases htuples

theorem Within.trans {o o' o'' : PyObj} (h : Within tuples o o') (h' : Within tuples o' o'') :
    Within tuples o o'' := by
  induction h with
  | refl o => exact h'
  | field h hin ih => exact .field h (ih h')
  | item h hin ih => exact .item h (ih h')
  | member htuples h hin ih => exact .member htuples h (ih h')

/-- What stands in a value is reached without a tuple, or in a tuple that is. -/
theorem within_true {o o' : PyObj} (h : Within true o o') : Within false o o' ∨
    ∃ items, Within false o (.tuple items) ∧ ∃ value ∈ items, Within true value o' := by
  induction h with
  | refl o => exact .inl (.refl o)
  | field h hin ih =>
      rcases ih with hin | ⟨items, htuple, hvalue⟩
      · exact .inl (.field h hin)
      · exact .inr ⟨items, .field h htuple, hvalue⟩
  | item h hin ih =>
      rcases ih with hin | ⟨items, htuple, hvalue⟩
      · exact .inl (.item h hin)
      · exact .inr ⟨items, .item h htuple, hvalue⟩
  | member htuples h hin ih => exact .inr ⟨_, .refl _, _, h, hin⟩

theorem hasKey_true_iff : HasKey true o key ↔ HasKey false o key ∨ KeyInTuple o key := by
  constructor
  · rintro ⟨fields, value, hwithin, hmem⟩
    rcases within_true hwithin with hopen | ⟨items, htuple, member, hmember, hin⟩
    · exact .inl ⟨fields, value, hopen, hmem⟩
    · exact .inr ⟨items, htuple, member, hmember, fields, value, hin, hmem⟩
  · rintro (⟨fields, value, hwithin, hmem⟩ |
      ⟨items, htuple, member, hmember, fields, value, hin, hmem⟩)
    · exact ⟨fields, value, hwithin.weaken, hmem⟩
    · exact ⟨fields, value, htuple.weaken.trans (.member rfl hmember hin), hmem⟩

end

/-- No key is in a value that is neither a dictionary, a list nor a tuple. -/
theorem not_hasKey_of_within_eq {tuples : Bool} {o : PyObj} {key : DictKey}
    (h : ∀ o', Within tuples o o' → o' = o) (hdict : ∀ fields, o ≠ .dict fields) :
    ¬HasKey tuples o key := by
  rintro ⟨fields, value, hwithin, -⟩
  exact hdict fields (h _ hwithin).symm

theorem checkKeys_leaf_iff {o : PyObj} (hcheck : checkKeys o = .ok none)
    (h : ∀ o', Within false o o' → o' = o) (hdict : ∀ fields, o ≠ .dict fields) :
    checkKeys o = .ok none ↔ ∀ key, HasKey false o key → key.Plain :=
  iff_of_true hcheck fun _ hin => absurd hin (not_hasKey_of_within_eq h hdict)

mutual

/-- The search for keys ends without one exactly when every key it can reach is plain. -/
theorem checkKeys_iff (o : PyObj) :
    checkKeys o = .ok none ↔ ∀ key, HasKey false o key → key.Plain := by
  cases o with
  | dict fields =>
      rw [checkKeys, checkFields_iff fields]
      simp only [hasKey_dict]
      constructor
      · rintro h key ⟨field, hmem, rfl | hin⟩
        · exact (h field hmem).1
        · exact (h field hmem).2 key hin
      · intro h field hmem
        exact ⟨h _ ⟨field, hmem, .inl rfl⟩, fun key hin => h key ⟨field, hmem, .inr hin⟩⟩
  | list items =>
      rw [checkKeys, checkItems_iff items]
      simp only [hasKey_list]
      constructor
      · rintro h key ⟨item, hmem, hin⟩
        exact h item hmem key hin
      · intro h item hmem key hin
        exact h key ⟨item, hmem, hin⟩
  | tuple items => exact iff_of_true rfl fun _ hin => absurd hin not_hasKey_tuple
  | null => exact checkKeys_leaf_iff rfl (by rintro _ ⟨⟩; rfl) (by simp)
  | bool b => exact checkKeys_leaf_iff rfl (by rintro _ ⟨⟩; rfl) (by simp)
  | int n => exact checkKeys_leaf_iff rfl (by rintro _ ⟨⟩; rfl) (by simp)
  | float x => exact checkKeys_leaf_iff rfl (by rintro _ ⟨⟩; rfl) (by simp)
  | bytes data => exact checkKeys_leaf_iff rfl (by rintro _ ⟨⟩; rfl) (by simp)
  | str s => exact checkKeys_leaf_iff rfl (by rintro _ ⟨⟩; rfl) (by simp)

theorem checkFields_iff (fields : List (DictKey × PyObj)) :
    checkFields fields = .ok none ↔
      ∀ field ∈ fields, field.1.Plain ∧ ∀ key, HasKey false field.2 key → key.Plain := by
  cases fields with
  | nil => simp [checkFields]
  | cons field fields =>
      obtain ⟨key, value⟩ := field
      cases key with
      | other => simp [checkFields, DictKey.Plain]
      | text key =>
          rw [checkFields, List.forall_mem_cons, ← checkFields_iff fields, ← checkKeys_iff value]
          by_cases hkey : lower key ∈ forbiddenReasoningKeys
          · simp [hkey, DictKey.Plain]
          · rw [if_neg hkey]
            cases hvalue : checkKeys value with
            | error e => simp
            | ok message => cases message <;> simp [hkey, DictKey.Plain]

theorem checkItems_iff (items : List PyObj) :
    checkItems items = .ok none ↔ ∀ item ∈ items, ∀ key, HasKey false item key → key.Plain := by
  cases items with
  | nil => simp [checkItems]
  | cons item items =>
      rw [checkItems, List.forall_mem_cons, ← checkItems_iff items, ← checkKeys_iff item]
      cases hitem : checkKeys item with
      | error e => simp
      | ok message => cases message <;> simp

end

/-! ### Texts -/

def HasText (o : PyObj) (text : String) : Prop :=
  Within true o (.str text) ∨ HasKey true o (.text text)

/-- The texts of an answer in which secrets are looked for. -/
inductive Searched (response : AdapterResponse) : String → Prop
  | content {message : AdapterMessage} (h : response.message = some message) :
      Searched response message.content
  | label {label : String} (h : .activity label ∈ response.events) : Searched response label

/-- The other texts of an answer that a turn stores or sends. -/
inductive Unsearched (response : AdapterResponse) : String → Prop
  | summary {request : ApprovalRequest} (h : .approval request ∈ response.events) :
      Unsearched response request.summary
  | reason {request : ApprovalRequest} (h : .approval request ∈ response.events) :
      Unsearched response request.reason
  | scope {request : ApprovalRequest} {text : String} (h : .approval request ∈ response.events)
      (htext : HasText (.dict request.requestedScope) text) : Unsearched response text
  | artifact {item : AdapterArtifactItem} {text : String} (h : item ∈ response.artifacts)
      (htext : item.pathOrBytes = .text text) : Unsearched response text

def Outgoing (response : AdapterResponse) (text : String) : Prop :=
  Searched response text ∨ Unsearched response text

def Secret (text : String) : Prop := secretPatternRegex.search text.toList = true

instance (text : String) : Decidable (Secret text) := inferInstanceAs (Decidable (_ = true))

theorem not_secret_of_infix {part text : String} (h : part.toList <:+: text.toList)
    (htext : ¬Secret text) : ¬Secret part :=
  fun hpart => htext (Regex.search_of_infix h hpart)

/-- One event's share of the text in which secrets are looked for. -/
def addLabel (text : String) : AdapterEvent → String
  | .activity label => text ++ (" " ++ label)
  | _ => text

theorem prefix_addLabel (text : String) (event : AdapterEvent) :
    text.toList <+: (addLabel text event).toList := by
  cases event with
  | activity label =>
      rw [addLabel, String.toList_append]
      exact List.prefix_append _ _
  | approval request => exact List.prefix_rfl
  | error code message => exact List.prefix_rfl

theorem prefix_foldl_addLabel (events : List AdapterEvent) (text : String) :
    text.toList <+: (events.foldl addLabel text).toList := by
  induction events generalizing text with
  | nil => exact List.prefix_rfl
  | cons event events ih => exact (prefix_addLabel text event).trans (ih _)

theorem infix_foldl_addLabel {events : List AdapterEvent} {label : String}
    (h : .activity label ∈ events) (text : String) :
    label.toList <:+: (events.foldl addLabel text).toList := by
  induction events generalizing text with
  | nil => cases h
  | cons event events ih =>
      rcases List.mem_cons.mp h with rfl | h
      · have hlabel : label.toList <:+: (addLabel text (.activity label)).toList := by
          rw [addLabel, String.toList_append, String.toList_append]
          exact ((List.suffix_append _ _).trans (List.suffix_append _ _)).isInfix
        exact hlabel.trans (prefix_foldl_addLabel events _).isInfix
      · exact ih h _

theorem textContent_eq (response : AdapterResponse) : response.textContent =
    response.events.foldl addLabel ((response.message.map AdapterMessage.content).getD "") := by
  unfold AdapterResponse.textContent
  congr 1

theorem Searched.infix {response : AdapterResponse} {text : String} (h : Searched response text) :
    text.toList <:+: response.textContent.toList := by
  rw [textContent_eq]
  cases h with
  | content h =>
      rw [h]
      exact (prefix_foldl_addLabel _ _).isInfix
  | label h => exact infix_foldl_addLabel h _

/-! ### What passes -/

variable {response : AdapterResponse} {card : AgentCard}

/-- The classes an adapter of the card's type may ask approval for. -/
def allowedClasses (card : AgentCard) : List ActionClass :=
  (capabilityDeclarations card.adapterType).allowedActionClasses

theorem eventKind_allowed (card : AgentCard) (event : AdapterEvent) :
    event.eventKind ∈ (capabilityDeclarations card.adapterType).allowedEventKinds := by
  have hall : ∀ adapterType : AdapterType,
      (capabilityDeclarations adapterType).allowedEventKinds =
        ["activity", "approval_request", "error"] := by
    rintro (_ | _ | _ | _) <;> rfl
  rw [hall]
  cases event <;> simp [AdapterEvent.eventKind]

theorem checkEvent_eq_none_iff {event : AdapterEvent} :
    checkEvent (capabilityDeclarations card.adapterType) card.adapterType.value event = none ↔
      ∀ request, event = .approval request → request.actionClass ∈ allowedClasses card := by
  unfold checkEvent
  rw [if_neg (not_not.mpr (eventKind_allowed card event))]
  cases event with
  | activity label => simp
  | error code message => simp
  | approval request =>
      by_cases hclass : request.actionClass ∈
          (capabilityDeclarations card.adapterType).allowedActionClasses
      · simp [hclass, allowedClasses]
      · simp [hclass, allowedClasses]

structure Screened (response : AdapterResponse) (card : AgentCard) : Prop where
  actionClasses : ∀ request, .approval request ∈ response.events →
    request.actionClass ∈ allowedClasses card
  keys : ∀ key, HasKey false response.dump key → key.Plain
  searched : ¬Secret response.textContent
  messageKind : ∀ message, response.message = some message → message.kind ∉ ownerOnlyKinds

theorem findRejection_eq_none_iff : findRejection response card = .ok none ↔
    Screened response card := by
  have hevents : response.events.findSome?
      (checkEvent (capabilityDeclarations card.adapterType) card.adapterType.value) = none ↔
      ∀ request, .approval request ∈ response.events →
        request.actionClass ∈ allowedClasses card := by
    rw [List.findSome?_eq_none_iff]
    constructor
    · intro h request hmem
      exact checkEvent_eq_none_iff.mp (h _ hmem) request rfl
    · rintro h event hmem
      refine checkEvent_eq_none_iff.mpr fun request heq => h request (heq ▸ hmem)
  constructor
  · intro h
    unfold findRejection at h
    split at h
    · cases h
    · rename_i hnone
      split at h
      · cases h
      · cases h
      · rename_i hkeys
        split at h
        · cases h
        · rename_i hsecret
          refine ⟨hevents.mp hnone, (checkKeys_iff _).mp hkeys, hsecret, fun message hmessage => ?_⟩
          rw [hmessage] at h
          intro hkind
          simp only [if_pos hkind] at h
          cases h
  · intro h
    have hsecret : secretPatternRegex.search response.textContent.toList = false :=
      Bool.eq_false_iff.mpr h.searched
    unfold findRejection
    rw [hevents.mpr h.actionClasses, (checkKeys_iff _).mpr h.keys]
    simp only [hsecret]
    cases hmessage : response.message with
    | none => rfl
    | some message => simp [h.messageKind message hmessage]

/-- The screening passes the answer. -/
def Passes (response : AdapterResponse) (card : AgentCard) (sessionId : Option String) : Prop :=
  ∃ outcome audit, validateAdapterOutput response card sessionId = .ok (outcome, audit) ∧
    outcome.valid = true

theorem passes_iff {sessionId : Option String} :
    Passes response card sessionId ↔ Screened response card := by
  rw [← findRejection_eq_none_iff]
  constructor
  · rintro ⟨outcome, audit, h, hvalid⟩
    unfold validateAdapterOutput at h
    split at h
    · cases h
    · assumption
    · cases h
      cases hvalid
  · intro h
    exact ⟨{ valid := true, sanitizedResponse := some response }, none,
      by rw [validateAdapterOutput, h], rfl⟩

/-- What a complete screening keeps out of an answer. -/
structure Complete (response : AdapterResponse) (card : AgentCard) : Prop where
  keys : ∀ key, HasKey true response.dump (.text key) → lower key ∉ forbiddenReasoningKeys
  actionClasses : ∀ request, .approval request ∈ response.events →
    request.actionClass ∈ allowedClasses card
  messageKind : ∀ message, response.message = some message → message.kind ∉ ownerOnlyKinds
  secrets : ∀ text, Outgoing response text → ¬Secret text

/-- The screening is complete exactly for the answers that, where they meet its checks, have
no forbidden key in a tuple, and no secret in an approval request or a text artifact. -/
theorem complete_iff_unsearched_clean (response : AdapterResponse) (card : AgentCard)
    (sessionId : Option String) :
    (Passes response card sessionId → Complete response card) ↔
      (Screened response card →
        (∀ key, KeyInTuple response.dump (.text key) → lower key ∉ forbiddenReasoningKeys) ∧
          ∀ text, Unsearched response text → ¬Secret text) := by
  rw [passes_iff]
  constructor
  · intro h hscreened
    have hcomplete := h hscreened
    exact ⟨fun key hkey => hcomplete.keys key (hasKey_true_iff.mpr (.inr hkey)),
      fun text htext => hcomplete.secrets text (.inr htext)⟩
  · intro h hscreened
    obtain ⟨htuples, hunsearched⟩ := h hscreened
    refine ⟨fun key hkey => ?_, hscreened.actionClasses, hscreened.messageKind, ?_⟩
    · rcases hasKey_true_iff.mp hkey with hopen | htuple
      · exact hscreened.keys _ hopen
      · exact htuples key htuple
    · rintro text (hsearched | htext)
      · exact not_secret_of_infix hsearched.infix hscreened.searched
      · exact hunsearched text htext

/-- An answer that asks for an approval and names a key in its summary. -/
def leakingResponse : AdapterResponse where
  events := [.approval {
    approvalId := "app_1", sessionId := "s1", agentId := "agent_1"
    actionClass := .informationalRelay
    summary := "Send api_key=hunter2 to bob"
    reason := "He asked", riskLabel := .low, requestedScope := []
    expiresAt := "2026-08-01T00:00:00Z" }]

/-- It passes, and its summary is stored and shown with the secret. -/
theorem summary_is_not_searched :
    ¬(Passes leakingResponse ⟨"agent_1", .webhook⟩ (some "s1") →
      Complete leakingResponse ⟨"agent_1", .webhook⟩) := by
  intro h
  have hpasses : Passes leakingResponse ⟨"agent_1", .webhook⟩ (some "s1") :=
    passes_iff.mpr (findRejection_eq_none_iff.mp (by decide +kernel))
  have hsummary := (h hpasses).secrets _ (.inr (.summary List.mem_cons_self))
  revert hsummary
  decide +kernel

end Kin.Adapters
