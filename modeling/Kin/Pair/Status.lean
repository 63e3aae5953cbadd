import Kin.Transport.IngestSpec

/-!
Two nodes that hold one session, seen through its status alone. Each runs the
same table on the same kinds, but an own envelope and the peer's move it
differently, and what one side has sent reaches the other later. The statuses
are compared after everything in flight has been taken in.
-/

namespace Kin.Pair

open Kin.Schemas Kin.Session Kin.Transport

inductive Side
  | initiator
  | receiver
  deriving DecidableEq, Repr

def Side.other : Side → Side
  | .initiator => .receiver
  | .receiver => .initiator

@[simp] theorem Side.other_other (side : Side) : side.other.other = side := by
  cases side <;> rfl

@[simp] theorem Side.other_ne (side : Side) : side.other ≠ side := by
  cases side <;> exact Side.noConfusion

theorem Side.eq_other {side me : Side} (h : side ≠ me) : side = me.other := by
  cases side <;> cases me <;> first | rfl | exact absurd rfl h

/-! ### One status -/

/-- The status a kind leads to, with the node commands around the reducer. -/
def movedStatus (isPeer : Bool) (kind : MessageKind) (status : Status) : Status :=
  settledStatus ((peerKindTransition kind).getD (reviewStatus status kind)) kind isPeer

/-- The status after an envelope of `author`, with the node commands around the
reducer; `none` when the reducer refuses. An acceptance counts only as the
receiver's first one. -/
def statusAfter (author : Side) (isPeer : Bool) (kind : MessageKind) (status : Status) :
    Option Status :=
  let reviewed := reviewStatus status kind
  let target := (peerKindTransition kind).getD reviewed
  if isTerminalState status = true then none
  else if kind = .acceptance then
    if author = .receiver ∧ preAcceptance reviewed = true then
      some (settledStatus target kind isPeer)
    else none
  else if target = reviewed ∨ isValidTransition reviewed target = true then
    some (settledStatus target kind isPeer)
  else none

/-- The status of a node after the peer's envelopes that are in flight to it. -/
def caughtUp (me : Side) (status : Status) (kinds : List MessageKind) : Option Status :=
  kinds.foldlM (fun s kind => statusAfter me.other true kind s) status

def endsSession (kind : MessageKind) : Bool := (peerKindTransition kind).any isTerminalState

/-- What an envelope without a status of its own does at the peer. -/
def softened : Status → Status
  | .sent => .delivered
  | .accepted => .active
  | s => s

theorem not_terminal_of_statusAfter {author : Side} {isPeer : Bool} {kind : MessageKind}
    {s s' : Status} (h : statusAfter author isPeer kind s = some s') :
    isTerminalState s = false := by
  by_contra hterm
  simp [statusAfter, hterm] at h

/-- Whatever admits an envelope, the status is the kind's, settled. -/
theorem statusAfter_eq {author : Side} {isPeer : Bool} {kind : MessageKind} {s s' : Status}
    (h : statusAfter author isPeer kind s = some s') :
    s' = movedStatus isPeer kind s := by
  unfold statusAfter at h
  simp only at h
  split at h
  · cases h
  · split at h
    · split at h
      · exact (Option.some.inj h).symm
      · cases h
    · split at h
      · exact (Option.some.inj h).symm
      · cases h

/-- A silent kind is no reply to a request. -/
theorem reviewStatus_of_silent {kind : MessageKind} (h : peerKindTransition kind = none)
    (s : Status) : reviewStatus s kind = s := by
  cases kind <;> simp_all [peerKindTransition, reviewStatus]

theorem getD_reviewStatus (kind : MessageKind) (s : Status) :
    (peerKindTransition kind).getD (reviewStatus s kind) = (peerKindTransition kind).getD s := by
  cases h : peerKindTransition kind with
  | none => rw [reviewStatus_of_silent h]
  | some t => rfl

/-- The author's own node goes to the status of the kind, or stays. -/
theorem statusAfter_own {author : Side} {kind : MessageKind} {s s' : Status}
    (h : statusAfter author false kind s = some s') :
    s' = (peerKindTransition kind).getD s := by
  rw [statusAfter_eq h, movedStatus, getD_reviewStatus]
  rfl

theorem statusAfter_silent {author : Side} {kind : MessageKind} {s : Status}
    (hkind : peerKindTransition kind = none) (hlive : isTerminalState s = false) :
    statusAfter author true kind s = some (softened s) := by
  cases kind <;> simp [peerKindTransition] at hkind <;> cases s <;>
    simp_all [statusAfter, peerKindTransition, reviewStatus, settledStatus, softened,
      isTerminalState]

theorem settledStatus_of_ne {kind : MessageKind} (hkind : kind ≠ .taskRequest) (s : Status) :
    settledStatus s kind true = softened s := by
  cases s <;> simp [settledStatus, softened, hkind]

theorem statusAfter_peer {author : Side} {kind : MessageKind} {s s' : Status}
    (hkind : kind ≠ .taskRequest) (h : statusAfter author true kind s = some s') :
    s' = softened ((peerKindTransition kind).getD s) := by
  rw [statusAfter_eq h, movedStatus, getD_reviewStatus, settledStatus_of_ne hkind]

theorem softened_ne (s : Status) : softened s ≠ .sent ∧ softened s ≠ .accepted := by
  cases s <;> simp [softened]

@[simp] theorem softened_softened (s : Status) : softened (softened s) = softened s := by
  cases s <;> rfl

@[simp] theorem isTerminalState_softened (s : Status) :
    isTerminalState (softened s) = isTerminalState s := by
  cases s <;> rfl

/-! ### Catching up -/

section CaughtUp

variable {me : Side} {s s' t : Status} {kind : MessageKind} {kinds : List MessageKind}

@[simp] theorem caughtUp_nil : caughtUp me s [] = some s := rfl

theorem caughtUp_cons : caughtUp me s (kind :: kinds) = some t ↔
    ∃ s', statusAfter me.other true kind s = some s' ∧ caughtUp me s' kinds = some t := by
  simp [caughtUp, List.foldlM_cons, Option.bind_eq_some_iff]

theorem caughtUp_concat (h : caughtUp me s kinds = some s')
    (hkind : statusAfter me.other true kind s' = some t) :
    caughtUp me s (kinds ++ [kind]) = some t := by
  rw [caughtUp] at h ⊢
  rw [List.foldlM_append, h]
  simp [hkind]

/-- What ends no session leaves the node in a live status. -/
theorem caughtUp_live (h : caughtUp me s kinds = some t) (hlive : isTerminalState s = false)
    (hkinds : ∀ m ∈ kinds, m ≠ .taskRequest ∧ endsSession m = false) :
    isTerminalState t = false := by
  induction kinds generalizing s with
  | nil =>
      cases h
      exact hlive
  | cons m kinds ih =>
      obtain ⟨s1, hfirst, hrest⟩ := caughtUp_cons.mp h
      obtain ⟨hm, hends⟩ := hkinds m List.mem_cons_self
      refine ih hrest ?_ fun m' hm' => hkinds m' (List.mem_cons_of_mem _ hm')
      rw [statusAfter_peer hm hfirst, isTerminalState_softened]
      rw [endsSession] at hends
      cases ht : peerKindTransition m with
      | none => exact hlive
      | some target =>
          rw [ht] at hends
          exact hends

/-- A node that has taken in anything of the peer is neither `sent` nor `accepted`. -/
theorem caughtUp_settled (h : caughtUp me s kinds = some t) (hne : kinds ≠ [])
    (hkinds : ∀ m ∈ kinds, m ≠ .taskRequest) : t ≠ .sent ∧ t ≠ .accepted := by
  induction kinds generalizing s with
  | nil => exact absurd rfl hne
  | cons m kinds ih =>
      obtain ⟨s1, hfirst, hrest⟩ := caughtUp_cons.mp h
      by_cases hlast : kinds = []
      · subst hlast
        cases hrest
        rw [statusAfter_peer (hkinds m List.mem_cons_self) hfirst]
        exact softened_ne _
      · exact ih hrest hlast fun m' hm' => hkinds m' (List.mem_cons_of_mem _ hm')

/-- Kinds that are silent or aim at `t` leave a node where it was, softened if
there were any, or in `t`. -/
theorem caughtUp_towards (h : caughtUp me s kinds = some s')
    (hkinds : ∀ m ∈ kinds, m ≠ .taskRequest ∧
      (peerKindTransition m = none ∨ peerKindTransition m = some t)) :
    kinds = [] ∧ s' = s ∨ s' = softened s ∨ s' = softened t := by
  induction kinds generalizing s with
  | nil =>
      cases h
      exact .inl ⟨rfl, rfl⟩
  | cons m kinds ih =>
      obtain ⟨s1, hfirst, hrest⟩ := caughtUp_cons.mp h
      obtain ⟨hm, htarget⟩ := hkinds m List.mem_cons_self
      have hs1 := statusAfter_peer hm hfirst
      have hends := ih hrest fun m' hm' => hkinds m' (List.mem_cons_of_mem _ hm')
      right
      rcases htarget with htarget | htarget
      · rw [htarget, Option.getD_none] at hs1
        rw [hs1, softened_softened] at hends
        rcases hends with ⟨-, h⟩ | h | h
        · exact .inl h
        · exact .inl h
        · exact .inr h
      · rw [htarget, Option.getD_some] at hs1
        rw [hs1, softened_softened] at hends
        rcases hends with ⟨-, h⟩ | h | h
        · exact .inr h
        · exact .inr h
        · exact .inr h

/-- A kind that aims at the status a node is in, other than `accepted`, softens
it. -/
theorem statusAfter_same {author : Side} (hlive : isTerminalState s = false)
    (hreply : reviewStatus s kind = s) (hkind : peerKindTransition kind = some s)
    (hne : s ≠ .accepted) : statusAfter author true kind s = some (settledStatus s kind true) := by
  have hacceptance : kind ≠ .acceptance := by
    rintro rfl
    cases hkind
    exact hne rfl
  simp [statusAfter, hlive, hreply, hkind, hacceptance]

/-- A node in `t` that takes in kinds that are silent or aim at `t` stays there. -/
theorem caughtUp_at (ht : t = .active ∨ t = .awaitingOwnerApproval ∨ t = .needsClarification)
    (hkinds : ∀ m ∈ kinds, peerKindTransition m = none ∨ peerKindTransition m = some t) :
    caughtUp me t kinds = some t := by
  induction kinds with
  | nil => rfl
  | cons m kinds ih =>
      refine caughtUp_cons.mpr ⟨t, ?_, ih fun m' hm' => hkinds m' (List.mem_cons_of_mem _ hm')⟩
      have hm := hkinds m List.mem_cons_self
      rcases hm with hm | hm
      · rcases ht with rfl | rfl | rfl <;> exact statusAfter_silent hm rfl
      · rcases ht with rfl | rfl | rfl
        · exact statusAfter_same rfl (by simp [reviewStatus]) hm (by decide)
        · exact statusAfter_same rfl (by simp [reviewStatus]) hm (by decide)
        · exact statusAfter_same rfl (by simp [reviewStatus]) hm (by decide)

/-- After its own acceptance a node takes in silent kinds and is active. -/
theorem caughtUp_accepted (hkinds : ∀ m ∈ kinds, peerKindTransition m = none) :
    caughtUp me .accepted kinds = some (if kinds = [] then .accepted else .active) := by
  cases kinds with
  | nil => rfl
  | cons m kinds =>
      rw [if_neg (List.cons_ne_nil m kinds)]
      refine caughtUp_cons.mpr ⟨.active, statusAfter_silent (hkinds m List.mem_cons_self) rfl, ?_⟩
      exact caughtUp_at (.inl rfl) fun m' hm' => .inl (hkinds m' (List.mem_cons_of_mem _ hm'))

end CaughtUp

/-! ### Statuses that belong together -/

/-- The statuses of initiator and receiver, with nothing in flight. -/
def pairs : List (Status × Status) :=
  [(.sent, .peerReview), (.queued, .peerReview), (.delivered, .peerReview),
   (.active, .accepted), (.active, .active), (.awaitingOwnerApproval, .awaitingOwnerApproval),
   (.needsClarification, .needsClarification), (.completed, .completed), (.declined, .declined),
   (.cancelled, .cancelled)]

/-- The statuses agree once everything in flight is taken in. A request is in
flight only before the receiver knows the session. -/
structure Accord (initiator receiver : Status) (toInitiator toReceiver : List MessageKind) :
    Prop where
  known : ∀ m ∈ toInitiator ++ toReceiver, m ≠ .taskRequest
  agrees : ∃ a b, caughtUp .initiator initiator toInitiator = some a ∧
    caughtUp .receiver receiver toReceiver = some b ∧ (a, b) ∈ pairs

/-- When a node may send a kind, given its status, the peer's, and what is in
flight both ways:
 - what is in flight to it ends no session and, if the kind moves the status,
   moves it nowhere else; a kind that ends the session waits for everything;
 - the receiver accepts once, and answers otherwise only an initiator that is
   past `sent`; it cancels after it has answered;
 - the initiator's results and approval requests come after the receiver has got
   something since its acceptance. -/
structure InTurn (me : Side) (mine theirs : Status) (toMe toThem : List MessageKind)
    (kind : MessageKind) : Prop where
  known : kind ≠ .taskRequest
  quiet : ∀ m ∈ toMe, endsSession m = false ∧ (peerKindTransition kind ≠ none →
    peerKindTransition m = none ∨ peerKindTransition m = peerKindTransition kind)
  last : endsSession kind = true → toMe = []
  acceptance : kind = .acceptance → me = .receiver ∧ mine = .peerReview
  reply : me = .receiver → kind = .decline ∨ kind = .clarification → ¬(theirs = .sent ∧ toThem = [])
  cancel : me = .receiver → kind = .cancel → mine ≠ .peerReview
  started : me = .initiator → kind = .finalResult ∨ kind = .approvalRequest →
    ¬(theirs = .accepted ∧ toThem = [])

instance (me : Side) (mine theirs : Status) (toMe toThem : List MessageKind) (kind : MessageKind) :
    Decidable (InTurn me mine theirs toMe toThem kind) :=
  decidable_of_iff (_ ∧ _ ∧ _ ∧ _ ∧ _ ∧ _ ∧ _)
    ⟨fun ⟨h1, h2, h3, h4, h5, h6, h7⟩ => ⟨h1, h2, h3, h4, h5, h6, h7⟩,
      fun h => ⟨h.known, h.quiet, h.last, h.acceptance, h.reply, h.cancel, h.started⟩⟩

/-! The table is finite: the lifecycle has sixteen states and there are eighteen
kinds, so what one envelope does to a pair is checked by evaluation. -/

def lifecycle : List Status :=
  [.draft, .sent, .queued, .delivered, .peerReview, .needsClarification, .accepted, .active,
   .awaitingOwnerApproval, .awaitingPeer, .paused, .completed, .failed, .cancelled, .expired,
   .declined]

def kinds : List MessageKind :=
  [.taskRequest, .acceptance, .decline, .clarification, .proposal, .counterproposal, .finding,
   .question, .answer, .artifactOffer, .artifactAccept, .approvalRequest, .finalResult, .cancel,
   .statusEvent, .plan, .participantChanged, .approvalDecision]

theorem mem_kinds (kind : MessageKind) : kind ∈ kinds := by
  cases kind <;> decide

/-- A status outside the lifecycle is left by no envelope. -/
theorem mem_lifecycle {author : Side} {kind : MessageKind} {s s' : Status}
    (h : statusAfter author false kind s = some s') (hkind : peerKindTransition kind ≠ none) :
    s ∈ lifecycle := by
  cases s with
  | other name =>
      exfalso
      cases kind <;>
        simp_all [statusAfter, peerKindTransition, reviewStatus, isValidTransition, validTransitions,
          preAcceptance]
  | _ => decide

theorem initiator_table : ∀ p ∈ pairs, ∀ v ∈ lifecycle, ∀ k ∈ kinds,
    statusAfter .initiator false k v = peerKindTransition k → k ≠ .taskRequest →
    ∀ t ∈ (peerKindTransition k).toList,
      p.1 = v ∨ isTerminalState t = false ∧ (p.1 = softened v ∨ p.1 = softened t) →
      (k = .finalResult ∨ k = .approvalRequest → p.2 ≠ .accepted) →
      ∃ b ∈ lifecycle, statusAfter .initiator true k p.2 = some b ∧ (t, b) ∈ pairs := by
  decide +kernel

/-- The receiver's conditions on its own status and the initiator's. -/
def mayReply (kind : MessageKind) (mine theirs : Status) : Bool :=
  decide (kind ≠ .acceptance) &&
    (decide (kind ≠ .decline ∧ kind ≠ .clarification) || decide (theirs ≠ .sent)) &&
    (decide (kind ≠ .cancel) || decide (mine ≠ .peerReview))

theorem receiver_table : ∀ p ∈ pairs, ∀ v ∈ lifecycle, ∀ k ∈ kinds,
    statusAfter .receiver false k v = peerKindTransition k → k ≠ .taskRequest →
    mayReply k v p.1 = true → ∀ t ∈ (peerKindTransition k).toList,
      p.2 = v ∨ isTerminalState t = false ∧ (p.2 = softened v ∨ p.2 = softened t) →
      ∃ a ∈ lifecycle, statusAfter .receiver true k p.1 = some a ∧ (a, t) ∈ pairs := by
  decide +kernel

/-- The receiver's acceptance, from `peer_review`, makes the initiator active. -/
theorem acceptance_table : ∀ p ∈ pairs, p.2 = .peerReview →
    statusAfter .receiver true .acceptance p.1 = some .active := by
  decide

/-- A silent envelope of either side keeps a live pair. -/
theorem silent_table : ∀ p ∈ pairs, (p.1, softened p.2) ∈ pairs ∧ (softened p.1, p.2) ∈ pairs ∧
    isTerminalState p.1 = isTerminalState p.2 := by
  decide

/-! ### Sending and delivering -/

section Send

variable {initiator receiver s : Status} {toInitiator toReceiver : List MessageKind}
  {kind : MessageKind}

/-- A delivery takes the first envelope in flight. -/
theorem Accord.deliver_initiator (h : Accord initiator receiver (kind :: toInitiator) toReceiver) :
    ∃ s, statusAfter .receiver true kind initiator = some s ∧
      Accord s receiver toInitiator toReceiver := by
  obtain ⟨a, b, ha, hb, hpair⟩ := h.agrees
  obtain ⟨s, hs, hrest⟩ := caughtUp_cons.mp ha
  exact ⟨s, hs, fun m hm => h.known m (List.mem_cons_of_mem _ hm), a, b, hrest, hb, hpair⟩

theorem Accord.deliver_receiver (h : Accord initiator receiver toInitiator (kind :: toReceiver)) :
    ∃ s, statusAfter .initiator true kind receiver = some s ∧
      Accord initiator s toInitiator toReceiver := by
  obtain ⟨a, b, ha, hb, hpair⟩ := h.agrees
  obtain ⟨s, hs, hrest⟩ := caughtUp_cons.mp hb
  refine ⟨s, hs, fun m hm => h.known m ?_, a, b, ha, hrest, hpair⟩
  rcases List.mem_append.mp hm with hm | hm
  · exact List.mem_append_left _ hm
  · exact List.mem_append_right _ (List.mem_cons_of_mem _ hm)

theorem target_cases {t : Status} (h : peerKindTransition kind = some t) (hrequest : kind ≠ .taskRequest)
    (hacceptance : kind ≠ .acceptance) :
    isTerminalState t = true ∨ t = .active ∨ t = .awaitingOwnerApproval ∨ t = .needsClarification := by
  cases kind <;> simp_all [peerKindTransition, isTerminalState] <;> subst h <;> simp

/-- The peer never sends the receiver an acceptance it takes in. -/
theorem acceptance_not_mem {t : Status} {kinds : List MessageKind}
    (h : caughtUp .receiver s kinds = some t) : .acceptance ∉ kinds := by
  induction kinds generalizing s with
  | nil => exact List.not_mem_nil
  | cons m kinds ih =>
      obtain ⟨s1, hfirst, hrest⟩ := caughtUp_cons.mp h
      rw [List.mem_cons, not_or]
      refine ⟨?_, ih hrest⟩
      rintro rfl
      simp [statusAfter, Side.other] at hfirst

section Own

variable {me : Side} {mine theirs a t : Status} {toMe toThem : List MessageKind}

/-- Where the sender stands before and after, once it has caught up, if it sends
a kind that is neither a request nor an acceptance. -/
theorem sender_caughtUp (hturn : InTurn me mine theirs toMe toThem kind)
    (hacceptance : kind ≠ .acceptance) (hknown : ∀ m ∈ toMe, m ≠ .taskRequest)
    (hkind : peerKindTransition kind = some t) (hmine : caughtUp me mine toMe = some a) :
    (a = mine ∨ isTerminalState t = false ∧ (a = softened mine ∨ a = softened t)) ∧
      caughtUp me t toMe = some t := by
  have hquiet : ∀ m ∈ toMe, peerKindTransition m = none ∨ peerKindTransition m = some t := by
    intro m hm
    rw [← hkind]
    exact (hturn.quiet m hm).2 (by simp [hkind])
  rcases target_cases hkind hturn.known hacceptance with hterm | ht
  · have hempty : toMe = [] := hturn.last (by simp [endsSession, hkind, hterm])
    subst hempty
    cases hmine
    exact ⟨.inl rfl, rfl⟩
  · have hlive : isTerminalState t = false := by rcases ht with rfl | rfl | rfl <;> rfl
    refine ⟨?_, caughtUp_at ht hquiet⟩
    rcases caughtUp_towards hmine fun m hm => ⟨hknown m hm, hquiet m hm⟩ with ⟨-, h⟩ | h | h
    · exact .inl h
    · exact .inr ⟨hlive, .inl h⟩
    · exact .inr ⟨hlive, .inr h⟩

/-- A node that may send anything has caught up to a live status. -/
theorem sender_live (hturn : InTurn me mine theirs toMe toThem kind)
    (hknown : ∀ m ∈ toMe, m ≠ .taskRequest) (hown : statusAfter me false kind mine = some s)
    (hmine : caughtUp me mine toMe = some a) : isTerminalState a = false :=
  caughtUp_live hmine (not_terminal_of_statusAfter hown)
    fun m hm => ⟨hknown m hm, (hturn.quiet m hm).1⟩

end Own

theorem Accord.known_initiator (h : Accord initiator receiver toInitiator toReceiver) :
    ∀ m ∈ toInitiator, m ≠ .taskRequest :=
  fun m hm => h.known m (List.mem_append_left _ hm)

theorem Accord.known_receiver (h : Accord initiator receiver toInitiator toReceiver) :
    ∀ m ∈ toReceiver, m ≠ .taskRequest :=
  fun m hm => h.known m (List.mem_append_right _ hm)

theorem Accord.send_initiator (h : Accord initiator receiver toInitiator toReceiver)
    (hown : statusAfter .initiator false kind initiator = some s)
    (hturn : InTurn .initiator initiator receiver toInitiator toReceiver kind) :
    Accord s receiver toInitiator (toReceiver ++ [kind]) := by
  obtain ⟨a, b, ha, hb, hpair⟩ := h.agrees
  have hknown : ∀ m ∈ toInitiator ++ (toReceiver ++ [kind]), m ≠ .taskRequest := by
    intro m hm
    rw [← List.append_assoc, List.mem_append, List.mem_singleton] at hm
    rcases hm with hm | rfl
    · exact h.known m hm
    · exact hturn.known
  have hs := statusAfter_own hown
  refine ⟨hknown, ?_⟩
  cases hkind : peerKindTransition kind with
  | none =>
      rw [hkind, Option.getD_none] at hs
      subst hs
      obtain ⟨hsoft, -, hterm⟩ := silent_table _ hpair
      have hlive := sender_live hturn h.known_initiator hown ha
      exact ⟨a, softened b, ha, caughtUp_concat hb (statusAfter_silent hkind (hterm ▸ hlive)), hsoft⟩
  | some t =>
      rw [hkind, Option.getD_some] at hs
      subst hs
      have hacceptance : kind ≠ .acceptance := fun heq => by cases (hturn.acceptance heq).1
      obtain ⟨hbefore, hafter⟩ := sender_caughtUp hturn hacceptance h.known_initiator hkind ha
      have hstarted : kind = .finalResult ∨ kind = .approvalRequest → b ≠ .accepted := by
        intro hk haccepted
        by_cases hempty : toReceiver = []
        · subst hempty
          cases hb
          exact hturn.started rfl hk ⟨haccepted, rfl⟩
        · exact (caughtUp_settled hb hempty h.known_receiver).2 haccepted
      obtain ⟨b', -, hb', hpair'⟩ := initiator_table _ hpair initiator
        (mem_lifecycle hown (by simp [hkind])) kind (mem_kinds kind) (by rw [hown, hkind])
        hturn.known s (by simp [hkind]) hbefore hstarted
      exact ⟨s, b', hafter, caughtUp_concat hb hb', hpair'⟩

theorem Accord.send_receiver (h : Accord initiator receiver toInitiator toReceiver)
    (hown : statusAfter .receiver false kind receiver = some s)
    (hturn : InTurn .receiver receiver initiator toReceiver toInitiator kind) :
    Accord initiator s (toInitiator ++ [kind]) toReceiver := by
  obtain ⟨a, b, ha, hb, hpair⟩ := h.agrees
  have hknown : ∀ m ∈ (toInitiator ++ [kind]) ++ toReceiver, m ≠ .taskRequest := by
    intro m hm
    rw [List.mem_append, List.mem_append, List.mem_singleton] at hm
    rcases hm with (hm | rfl) | hm
    · exact h.known_initiator m hm
    · exact hturn.known
    · exact h.known_receiver m hm
  have hs := statusAfter_own hown
  refine ⟨hknown, ?_⟩
  by_cases hacceptance : kind = .acceptance
  · subst hacceptance
    obtain ⟨-, rfl⟩ := hturn.acceptance rfl
    have hsilent : ∀ m ∈ toReceiver, peerKindTransition m = none := by
      intro m hm
      rcases (hturn.quiet m hm).2 (by decide) with hm' | hm'
      · exact hm'
      · have hmem : m ≠ .acceptance := fun heq => acceptance_not_mem hb (heq ▸ hm)
        cases m <;> simp_all [peerKindTransition]
    have hb' : b = .peerReview := by
      rcases caughtUp_towards (t := .peerReview) hb fun m hm =>
        ⟨h.known_receiver m hm, .inl (hsilent m hm)⟩ with ⟨-, h⟩ | h | h <;> exact h
    have hactive := acceptance_table _ hpair hb'
    refine ⟨.active, if toReceiver = [] then .accepted else .active, caughtUp_concat ha hactive,
      ?_, ?_⟩
    · rw [hs]
      exact caughtUp_accepted hsilent
    · split <;> decide
  cases hkind : peerKindTransition kind with
  | none =>
      rw [hkind, Option.getD_none] at hs
      subst hs
      obtain ⟨-, hsoft, hterm⟩ := silent_table _ hpair
      have hlive := sender_live hturn h.known_receiver hown hb
      exact ⟨softened a, b, caughtUp_concat ha (statusAfter_silent hkind (hterm ▸ hlive)), hb, hsoft⟩
  | some t =>
      rw [hkind, Option.getD_some] at hs
      subst hs
      obtain ⟨hbefore, hafter⟩ := sender_caughtUp hturn hacceptance h.known_receiver hkind hb
      have hpast : kind = .decline ∨ kind = .clarification → a ≠ .sent := by
        intro hk hsent
        by_cases hempty : toInitiator = []
        · subst hempty
          cases ha
          exact hturn.reply rfl hk ⟨hsent, rfl⟩
        · exact (caughtUp_settled ha hempty h.known_initiator).1 hsent
      have hmay : mayReply kind receiver a = true := by
        simp only [mayReply, Bool.and_eq_true, Bool.or_eq_true, decide_eq_true_eq]
        refine ⟨⟨hacceptance, ?_⟩, ?_⟩
        · by_cases hk : kind = .decline ∨ kind = .clarification
          · exact .inr (hpast hk)
          · exact .inl (not_or.mp hk)
        · by_cases hk : kind = .cancel
          · exact .inr (hturn.cancel rfl hk)
          · exact .inl hk
      obtain ⟨a', -, ha', hpair'⟩ := receiver_table _ hpair receiver
        (mem_lifecycle hown (by simp [hkind])) kind (mem_kinds kind) (by rw [hown, hkind])
        hturn.known hmay s (by simp [hkind]) hbefore
      exact ⟨a', s, caughtUp_concat ha ha', hafter, hpair'⟩

end Send

end Kin.Pair
