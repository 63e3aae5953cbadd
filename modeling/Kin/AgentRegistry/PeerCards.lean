import Kin.AgentRegistry.PublishedCards
import Kin.Lib.ReviewHistory
import Mathlib.Data.List.Induction

/-!
The cache of peer cards of `kin/agent_registry/peer_cards.py`. A card that changed is
stale until the owner reviews it; what the owner last approved is not stored, so it is
read off the history of calls.
-/

namespace Kin.AgentRegistry

open Kin.Py Kin.Lib Kin.Schemas

def AgentAvailability.value : AgentAvailability → String
  | .ready => "ready"
  | .busy => "busy"
  | .reserved => "reserved"
  | .needsKey => "needs_key"
  | .needsWorkspace => "needs_workspace"
  | .waitingForApproval => "waiting_for_approval"
  | .offline => "offline"
  | .policyBlocked => "policy_blocked"

def textList (items : List String) : Json := .arr (items.map fun item => .text item)

/-- `model_dump` of a published card. -/
def modelDump (card : PublishedAgentCard) : Fields :=
  [(.text "schema_version", .text card.schemaVersion), (.text "agent_id", .text card.agentId),
   (.text "name", .text card.name), (.text "description", .text card.description),
   (.text "capabilities", .obj
     [(.text "tags", textList card.capabilities.tags),
      (.text "accepts", textList card.capabilities.accepts),
      (.text "produces", textList card.capabilities.produces)]),
   (.text "availability", .text card.availability.value),
   (.text "requires_owner_acceptance", .bool card.requiresOwnerAcceptance),
   (.text "protocol_version", .text card.protocolVersion)]

/-- The content hash of a card; `none` when it raises. -/
def cardHash (ext : Externals) (card : PublishedAgentCard) : Option String :=
  computeContentHash ext (modelDump card)

inductive PeerCardStatus
  | fresh
  | stale
  deriving DecidableEq

/-- A row of `peer_agent_cards`. The card stands for its JSON. -/
structure PeerCardRow where
  peerUsername : String
  agentId : String
  card : PublishedAgentCard
  contentHash : String
  status : PeerCardStatus
  firstSeenAt : String
  lastSeenAt : String

def PeerCardRow.pair (row : PeerCardRow) : String × String := (row.peerUsername, row.agentId)

abbrev PeerCardsTable := Keyed PeerCardRow.pair

inductive CacheResult
  | fresh
  | stale
  | unchanged
  deriving DecidableEq

/-- `cache_peer_card`; a hash that cannot be computed raises. -/
def cachePeerCard (ext : Externals) (db : PeerCardsTable) (peerUsername : String)
    (card : PublishedAgentCard) (now : String) : PeerCardsTable × Option CacheResult :=
  match cardHash ext card with
  | none => (db, none)
  | some contentHash =>
      match db.find? (peerUsername, card.agentId) with
      | none =>
          (db.put
            { peerUsername, agentId := card.agentId, card, contentHash, status := .fresh
              firstSeenAt := now, lastSeenAt := now }, some .fresh)
      | some row =>
          if row.contentHash = contentHash then
            (db.put { row with lastSeenAt := now }, some .unchanged)
          else
            (db.put { row with card, contentHash, status := .stale, lastSeenAt := now }, some .stale)

def markReviewed (db : PeerCardsTable) (peerUsername agentId : String) : PeerCardsTable :=
  match db.find? (peerUsername, agentId) with
  | none => db
  | some row => db.put { row with status := .fresh }

def isStale (db : PeerCardsTable) (peerUsername agentId : String) : Bool :=
  match db.find? (peerUsername, agentId) with
  | none => false
  | some row => row.status == .stale

inductive PeerCardCall
  | cache (peerUsername : String) (card : PublishedAgentCard) (now : String)
  | review (peerUsername agentId : String)

def PeerCardCall.pair : PeerCardCall → String × String
  | .cache peerUsername card _ => (peerUsername, card.agentId)
  | .review peerUsername agentId => (peerUsername, agentId)

def peerCardStep (ext : Externals) (db : PeerCardsTable) : PeerCardCall → PeerCardsTable
  | .cache peerUsername card now => (cachePeerCard ext db peerUsername card now).1
  | .review peerUsername agentId => markReviewed db peerUsername agentId

/-! ### What the owner has seen and reviewed -/

/-- What a call means for the history; a call that raises caches nothing. -/
def happening? (ext : Externals) :
    PeerCardCall → Option (Happening (String × String) PublishedAgentCard)
  | .cache peerUsername card _ =>
      if (cardHash ext card).isSome then some (.seen (peerUsername, card.agentId) card) else none
  | .review peerUsername agentId => some (.reviewed (peerUsername, agentId))

def cardHistory (ext : Externals) (calls : List PeerCardCall) :
    List (Happening (String × String) PublishedAgentCard) :=
  calls.filterMap (happening? ext)

/-- The table holds what the history says: the hash of the card seen last, and, while it
is not stale, that of the card that stands approved. -/
structure Tracks (ext : Externals)
    (history : List (Happening (String × String) PublishedAgentCard)) (db : PeerCardsTable) :
    Prop where
  absent : ∀ pair, db.find? pair = none → seenOf history pair = []
  latest : ∀ pair row, db.find? pair = some row → ∃ card,
    (seenOf history pair).getLast? = some card ∧ cardHash ext card = some row.contentHash
  approved : ∀ pair row, db.find? pair = some row → row.status = .fresh → ∃ card,
    Approved history pair card ∧ cardHash ext card = some row.contentHash

section Step

variable {ext : Externals} {history : List (Happening (String × String) PublishedAgentCard)}
  {db : PeerCardsTable} {pair : String × String} {row : PeerCardRow} {card : PublishedAgentCard}

theorem tracks_empty (ext : Externals) : Tracks ext [] Keyed.empty where
  absent _ _ := rfl
  latest _ _ h := by cases h
  approved _ _ h := by cases h

theorem Tracks.seen (h : Tracks ext history db) (hpair : row.pair = pair)
    (hhash : cardHash ext card = some row.contentHash)
    (hfresh : row.status = .fresh → ∃ card', Approved (history ++ [.seen pair card]) pair card' ∧
      cardHash ext card' = some row.contentHash) :
    Tracks ext (history ++ [.seen pair card]) (db.put row) := by
  subst hpair
  refine ⟨fun other hnone => ?_, fun other row' hrow' => ?_, fun other row' hrow' hstatus => ?_⟩
  · by_cases hother : other = row.pair
    · rw [hother, Keyed.find?_put_self] at hnone
      cases hnone
    · rw [Keyed.find?_put_of_ne hother] at hnone
      rw [seenOf_append, h.absent other hnone, seenOf_seen_of_ne (Ne.symm hother)]
      rfl
  · by_cases hother : other = row.pair
    · rw [hother, Keyed.find?_put_self, Option.some.injEq] at hrow'
      subst hrow'
      refine ⟨card, ?_, hhash⟩
      rw [hother, seenOf_append, seenOf_seen_self, List.getLast?_concat]
    · rw [Keyed.find?_put_of_ne hother] at hrow'
      rw [seenOf_append, seenOf_seen_of_ne (Ne.symm hother), List.append_nil]
      exact h.latest other row' hrow'
  · by_cases hother : other = row.pair
    · rw [hother, Keyed.find?_put_self, Option.some.injEq] at hrow'
      subst hrow'
      rw [hother]
      exact hfresh hstatus
    · rw [Keyed.find?_put_of_ne hother] at hrow'
      obtain ⟨card', happroved, hcard'⟩ := h.approved other row' hrow' hstatus
      exact ⟨card', happroved.snoc (by intro heq; cases heq), hcard'⟩

theorem Tracks.reviewed (h : Tracks ext history db) {old : PeerCardRow}
    (hold : db.find? pair = some old) (hpair : row.pair = pair)
    (hsame : row.contentHash = old.contentHash) :
    Tracks ext (history ++ [.reviewed pair]) (db.put row) := by
  obtain ⟨last, hlast, hhash⟩ := h.latest pair old hold
  rw [← hsame] at hhash
  subst hpair
  refine ⟨fun other hnone => ?_, fun other row' hrow' => ?_, fun other row' hrow' hstatus => ?_⟩
  · by_cases hother : other = row.pair
    · rw [hother, Keyed.find?_put_self] at hnone
      cases hnone
    · rw [Keyed.find?_put_of_ne hother] at hnone
      rw [seenOf_append, seenOf_reviewed, List.append_nil]
      exact h.absent other hnone
  · rw [seenOf_append, seenOf_reviewed, List.append_nil]
    by_cases hother : other = row.pair
    · rw [hother, Keyed.find?_put_self, Option.some.injEq] at hrow'
      subst hrow'
      rw [hother]
      exact ⟨last, hlast, hhash⟩
    · rw [Keyed.find?_put_of_ne hother] at hrow'
      exact h.latest other row' hrow'
  · by_cases hother : other = row.pair
    · rw [hother, Keyed.find?_put_self, Option.some.injEq] at hrow'
      subst hrow'
      rw [hother]
      exact ⟨last, approved_review hlast, hhash⟩
    · rw [Keyed.find?_put_of_ne hother] at hrow'
      obtain ⟨card', happroved, hcard'⟩ := h.approved other row' hrow' hstatus
      refine ⟨card', happroved.snoc ?_, hcard'⟩
      intro heq
      exact hother (Happening.reviewed.inj heq).symm

theorem Tracks.reviewed_absent (h : Tracks ext history db) (hnone : db.find? pair = none) :
    Tracks ext (history ++ [.reviewed pair]) db := by
  have hseen : ∀ other, seenOf (history ++ [.reviewed pair]) other = seenOf history other := by
    intro other
    rw [seenOf_append, seenOf_reviewed, List.append_nil]
  refine ⟨fun other hother => ?_, fun other row hrow => ?_, fun other row hrow hstatus => ?_⟩
  · rw [hseen]
    exact h.absent other hother
  · rw [hseen]
    exact h.latest other row hrow
  · obtain ⟨card, happroved, hhash⟩ := h.approved other row hrow hstatus
    refine ⟨card, happroved.snoc ?_, hhash⟩
    intro heq
    rw [Happening.reviewed.inj heq, hrow] at hnone
    cases hnone

theorem tracks_step (h : Tracks ext history db) (call : PeerCardCall) :
    Tracks ext (history ++ (happening? ext call).toList) (peerCardStep ext db call) := by
  cases call with
  | review peerUsername agentId =>
      simp only [peerCardStep, markReviewed, happening?, Option.toList_some]
      split
      · exact h.reviewed_absent ‹_›
      · rename_i row hrow
        have hpair : row.pair = (peerUsername, agentId) := Keyed.key_of_find? hrow
        exact h.reviewed hrow hpair rfl
  | cache peerUsername card now =>
      simp only [peerCardStep, cachePeerCard, happening?]
      cases hhash : cardHash ext card with
      | none =>
          simp only [Option.isSome_none, Bool.false_eq_true, if_false, Option.toList_none,
            List.append_nil]
          exact h
      | some contentHash =>
          simp only [Option.isSome_some, if_true, Option.toList_some]
          split
          · -- the first card of the pair
            rename_i hnone
            exact h.seen rfl hhash fun _ => ⟨card, approved_first (h.absent _ hnone), hhash⟩
          · rename_i row hrow
            have hpair : row.pair = (peerUsername, card.agentId) := Keyed.key_of_find? hrow
            split
            · -- the same card again: whatever stood approved still does
              rename_i hsame
              refine h.seen hpair (hhash.trans (congrArg some hsame.symm)) fun hstatus => ?_
              obtain ⟨card', happroved, hcard'⟩ := h.approved _ row hrow hstatus
              exact ⟨card', happroved.snoc (by intro heq; cases heq), hcard'⟩
            · exact h.seen hpair hhash fun hstatus => by cases hstatus

theorem find?_peerCardStep_of_ne (ext : Externals) (db : PeerCardsTable) (call : PeerCardCall)
    (h : pair ≠ call.pair) : (peerCardStep ext db call).find? pair = db.find? pair := by
  cases call with
  | review peerUsername agentId =>
      simp only [peerCardStep, markReviewed]
      split
      · rfl
      · rename_i row hrow
        have hpair : row.pair = (peerUsername, agentId) := Keyed.key_of_find? hrow
        exact Keyed.find?_put_of_ne fun heq => h (heq.trans hpair)
  | cache peerUsername card now =>
      simp only [peerCardStep, cachePeerCard]
      split
      · rfl
      split
      · exact Keyed.find?_put_of_ne h
      · rename_i row hrow
        have hpair : row.pair = (peerUsername, card.agentId) := Keyed.key_of_find? hrow
        split
        · exact Keyed.find?_put_of_ne fun heq => h (heq.trans hpair)
        · exact Keyed.find?_put_of_ne fun heq => h (heq.trans hpair)

end Step

theorem tracks_run (ext : Externals) (calls : List PeerCardCall) :
    Tracks ext (cardHistory ext calls) (run (peerCardStep ext) Keyed.empty calls) := by
  induction calls using List.reverseRecOn with
  | nil => exact tracks_empty ext
  | append_singleton calls call ih =>
      have hlast : List.filterMap (happening? ext) [call] = (happening? ext call).toList := by
        rw [List.filterMap_cons, List.filterMap_nil]
        cases happening? ext call with
        | none => rfl
        | some happening => rfl
      rw [run_append, cardHistory, List.filterMap_append, hlast]
      exact tracks_step ih call

/-- A cached card that is not stale has the hash of the card that stands approved, the
first one or the one last reviewed; and no call changes the row of another pair. -/
theorem unreviewed_change_is_stale (ext : Externals) (calls : List PeerCardCall) :
    (∀ peerUsername agentId row,
      (run (peerCardStep ext) Keyed.empty calls).find? (peerUsername, agentId) = some row →
      isStale (run (peerCardStep ext) Keyed.empty calls) peerUsername agentId = false →
        ∃ card, Approved (cardHistory ext calls) (peerUsername, agentId) card ∧
          cardHash ext card = some row.contentHash) ∧
    ∀ taken call pair, taken ++ [call] <+: calls → pair ≠ call.pair →
      (run (peerCardStep ext) Keyed.empty (taken ++ [call])).find? pair =
        (run (peerCardStep ext) Keyed.empty taken).find? pair := by
  constructor
  · intro peerUsername agentId row hrow hstale
    refine (tracks_run ext calls).approved _ row hrow ?_
    rw [isStale, hrow] at hstale
    cases hstatus : row.status with
    | fresh => rfl
    | stale => simp [hstatus] at hstale
  · intro taken call pair _ hpair
    rw [run_append]
    exact find?_peerCardStep_of_ne ext _ call hpair

end Kin.AgentRegistry
