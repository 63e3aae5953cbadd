import Kin.Inbox.Consumers
import Kin.Node.Refusal
import Mathlib.Data.Option.Basic

/-!
What the acknowledgements of the two readers mean. `fetch` marks everything it
cannot read as an envelope of the first protocol, session envelopes among it, and
acknowledges what is marked. Where its loop comes to no session envelope that was not
ingested before, whatever either reader acknowledges has been processed by the
function it was meant for.
-/

namespace Kin.Inbox

open Kin.Py Kin.Lib Kin.Schemas Kin.Storage Kin.Transport Kin.Node
open Kin.Relay (InboxMessage)

/-! ### The two kinds of envelopes -/

def IsSessionEnvelope (reader : Reader) (m : InboxMessage) : Prop :=
  ∃ senderKey raw envelope, reader.open? senderKey m = some (.obj raw) ∧
    validateEnvelope raw = some envelope

/-- The message reads as an envelope of the first protocol, from a verified contact with a
registered key. -/
structure V1Reading (reader : Reader) (contacts : List ContactRow) (m : InboxMessage)
    (contact : ContactRow) (key : PublicKey) (envelope : Fields) : Prop where
  known : Rows.lookup ContactRow.username contacts m.senderUsername = some contact
  verified : contact.fingerprintVerified = true
  registered : Db.given contact.x25519PublicKey = some key
  opened : reader.open? key m = some (.obj envelope)
  type : asText (envelope.getD "type" .null) = some "create_task" ∨
    asText (envelope.getD "type" .null) = some "send_message"
  signature : (envelope.getD "signature" .null).truthy = true
  payload : (envelope.getD "payload_bytes" .null).truthy = true
  payload_read : (reader.payload? (envelope.getD "payload_bytes" .null)).isSome = true

def IsV1Envelope (reader : Reader) (contacts : List ContactRow) (m : InboxMessage) : Prop :=
  ∃ contact key envelope, V1Reading reader contacts m contact key envelope

variable {reader : Reader} {contacts : List ContactRow} {m : InboxMessage}

theorem V1Reading.truthy {contact : ContactRow} {key : PublicKey} {envelope : Fields}
    (h : V1Reading reader contacts m contact key envelope) :
    (envelope.getD "type" .null).truthy = true := by
  rcases h.type with htype | htype
  · rw [asText_eq_some htype]
    rfl
  · rw [asText_eq_some htype]
    rfl

/-- `fetch` never skips a well-formed envelope of the first protocol. -/
theorem V1Reading.not_skipped {contact : ContactRow} {key : PublicKey} {envelope : Fields}
    (h : V1Reading reader contacts m contact key envelope) (outcome : Outcome) :
    reader.fetchMessage contacts outcome m ≠ .skipped := by
  have houtcome : outcome.verdict ≠ .skipped := by
    unfold Outcome.verdict
    split
    · split <;> simp
    · simp
  have hdispatch : reader.dispatch outcome envelope ≠ .skipped := by
    unfold Reader.dispatch
    simp only [h.truthy, h.signature, h.payload, Bool.not_true, Bool.or_self, Bool.false_eq_true,
      if_false]
    rw [Option.isNone_eq_false_iff.mpr h.payload_read, if_neg Bool.false_ne_true]
    rcases h.type with htype | htype
    · rw [if_pos htype]
      exact houtcome
    · rw [htype, if_neg (by simp), if_pos rfl]
      split
      · simp
      · exact houtcome
  unfold Reader.fetchMessage
  simp only [h.known, h.verified, h.registered, h.opened, Bool.not_true, Bool.false_eq_true,
    if_false]
  split
  · simp
  · exact hdispatch

/-- A session envelope has no `type`. -/
theorem getD_type_of_validateEnvelope {raw : Fields} {envelope : SessionEnvelope}
    (h : validateEnvelope raw = some envelope) : raw.getD "type" .null = .null := by
  have hkeys : (raw.all fun e => envelopeKeys.any fun k => decide (e.1 = .text k)) = true := by
    unfold validateEnvelope at h
    rw [Option.bind_eq_bind, Option.bind_eq_some_iff] at h
    obtain ⟨_, hguard, -⟩ := h
    exact (Option.guard_eq_some' ..).mp hguard
  have hnone : raw.get? "type" = none := by
    rw [Fields.get?, Option.map_eq_none_iff, List.find?_eq_none]
    intro e he hkey
    have hlisted := List.all_eq_true.mp hkeys e he
    rw [of_decide_eq_true hkey] at hlisted
    exact absurd hlisted (by decide)
  rw [Fields.getD, hnone]
  rfl

/-- What `ingest_envelope` accepts is a session envelope. -/
theorem validateEnvelope_of_accepted {ctx : IngestContext} {db : Db} {raw : Fields}
    {ack : TransportAcknowledgement} (h : (ingestEnvelope ctx db raw).exit = .ok ack)
    (hstatus : ack.status ≠ .rejected) : ∃ envelope, validateEnvelope raw = some envelope := by
  cases hver : verified? ctx db raw with
  | some envelope => exact ⟨envelope, validateEnvelope_of_verified hver⟩
  | none =>
      obtain ⟨exit, heq⟩ := ingestCommit_of_unverified hver
      rw [ingestEnvelope, heq] at h
      exact absurd (declines_unverified hver heq ack h) hstatus

/-- What `poll_relay_and_process` has accepted is no envelope of the first protocol. -/
theorem not_v1_of_polled {ctx : IngestContext} {db : Db} {error : String}
    (h : (reader.pollMessage ctx db error m).2 = true) : ¬IsV1Envelope reader db.contacts m := by
  rintro ⟨contact, key, envelope, hreading⟩
  unfold Reader.pollMessage at h
  have hkey : (db.resolvePeerContactInfo m.senderUsername).2.1 = some key := by
    unfold Db.resolvePeerContactInfo
    rw [hreading.known]
    simp [hreading.verified, hreading.registered]
  rw [hkey] at h
  simp only [hreading.opened] at h
  split at h
  · cases h
  · split at h
    · next ack hexit =>
        obtain ⟨session, hvalid⟩ := validateEnvelope_of_accepted hexit (by simpa using h)
        have htype := hreading.truthy
        rw [getD_type_of_validateEnvelope hvalid] at htype
        cases htype
    · cases h

/-! ### Nothing unprocessed -/

/-- The function that the message was meant for has accepted it. -/
structure Handled (reader : Reader) (contacts : List ContactRow) (s : State) (m : InboxMessage) :
    Prop where
  session : IsSessionEnvelope reader m → m.messageId ∈ s.ingested
  v1 : IsV1Envelope reader contacts m → m.messageId ∈ s.accepted

def NothingUnprocessed (reader : Reader) (s : State) : Prop :=
  ∀ m ∈ s.delivered, m.messageId ∈ s.acknowledged → Handled reader s.db.contacts s m

/-- `fetch` comes to a session envelope only after it was ingested. -/
def Spares (reader : Reader) (s : State) : Action → Prop
  | .fetchMessage run _ => ∀ m, s.nextFetch? run = some m → IsSessionEnvelope reader m →
      m.messageId ∈ s.ingested
  | _ => True

def HandledId (reader : Reader) (s : State) (messageId : Nat) : Prop :=
  ∃ m ∈ s.delivered, m.messageId = messageId ∧ Handled reader s.db.contacts s m

structure Grows (s s' : State) : Prop where
  contacts : s'.db.contacts = s.db.contacts
  delivered : ∀ m ∈ s.delivered, m ∈ s'.delivered
  ingested : ∀ messageId ∈ s.ingested, messageId ∈ s'.ingested
  accepted : ∀ messageId ∈ s.accepted, messageId ∈ s'.accepted

theorem HandledId.grow {s s' : State} {messageId : Nat} (h : HandledId reader s messageId)
    (hgrows : Grows s s') : HandledId reader s' messageId := by
  obtain ⟨m, hm, hid, hsession, hv1⟩ := h
  refine ⟨m, hgrows.delivered m hm, hid, ?_, ?_⟩
  · intro hkind
    exact hgrows.ingested _ (hsession hkind)
  · intro hkind
    rw [hgrows.contacts] at hkind
    exact hgrows.accepted _ (hv1 hkind)

/-- What holds of the node and its mailbox at every step. -/
structure Sound (reader : Reader) (s : State) : Prop where
  numbered : s.delivered.map InboxMessage.messageId = List.range' 1 s.delivered.length
  mailbox : ∀ m ∈ s.mailbox, m ∈ s.delivered
  fetches : ∀ run ∈ s.fetches, ∀ m ∈ run.rest, m ∈ s.delivered
  polls : ∀ run ∈ s.polls, ∀ m ∈ run.rest, m ∈ s.delivered
  processed : ∀ messageId ∈ s.processed, HandledId reader s messageId
  pending : ∀ run ∈ s.polls, ∀ messageId, run.pending = some messageId →
    HandledId reader s messageId
  acknowledged : ∀ messageId ∈ s.acknowledged, HandledId reader s messageId

theorem sound_initial (reader : Reader) (db : Db) : Sound reader (State.initial db) where
  numbered := rfl
  mailbox := nofun
  fetches := nofun
  polls := nofun
  processed := nofun
  pending := nofun
  acknowledged := nofun

theorem Sound.eq_of_id {s : State} (h : Sound reader s) {m m' : InboxMessage}
    (hm : m ∈ s.delivered) (hm' : m' ∈ s.delivered) (hid : m.messageId = m'.messageId) :
    m = m' := by
  have hnodup : (s.delivered.map InboxMessage.messageId).Nodup := by
    rw [h.numbered]
    exact List.nodup_range'
  exact List.inj_on_of_nodup_map hnodup hm hm' hid

theorem Sound.nothingUnprocessed {s : State} (h : Sound reader s) :
    NothingUnprocessed reader s := by
  intro m hm hack
  obtain ⟨m', hm', hid, hhandled⟩ := h.acknowledged m.messageId hack
  rw [← h.eq_of_id hm' hm hid]
  exact hhandled

/-! ### One step -/

/-- The reading of the mailbox, and what the runs have before them, may change; what is
marked, pending or acknowledged must have been so before, or be handled now. -/
theorem Sound.next {s s' : State} (h : Sound reader s) (hgrows : Grows s s')
    (hdelivered : s'.delivered = s.delivered)
    (hmailbox : ∀ m ∈ s'.mailbox, m ∈ s.delivered)
    (hfetches : ∀ run ∈ s'.fetches, ∀ m ∈ run.rest, m ∈ s.delivered)
    (hpolls : ∀ run ∈ s'.polls, ∀ m ∈ run.rest, m ∈ s.delivered)
    (hprocessed : ∀ messageId ∈ s'.processed,
      messageId ∈ s.processed ∨ HandledId reader s' messageId)
    (hpending : ∀ run ∈ s'.polls, ∀ messageId, run.pending = some messageId →
      (∃ run ∈ s.polls, run.pending = some messageId) ∨ HandledId reader s' messageId)
    (hacknowledged : ∀ messageId ∈ s'.acknowledged,
      messageId ∈ s.acknowledged ∨ HandledId reader s' messageId) :
    Sound reader s' where
  numbered := by
    rw [hdelivered]
    exact h.numbered
  mailbox m hm := hgrows.delivered m (hmailbox m hm)
  fetches run hrun m hm := hgrows.delivered m (hfetches run hrun m hm)
  polls run hrun m hm := hgrows.delivered m (hpolls run hrun m hm)
  processed messageId hid := by
    rcases hprocessed messageId hid with hold | hnew
    · exact (h.processed messageId hold).grow hgrows
    · exact hnew
  pending run hrun messageId hid := by
    rcases hpending run hrun messageId hid with ⟨run', hrun', hold⟩ | hnew
    · exact (h.pending run' hrun' messageId hold).grow hgrows
    · exact hnew
  acknowledged messageId hid := by
    rcases hacknowledged messageId hid with hold | hnew
    · exact (h.acknowledged messageId hold).grow hgrows
    · exact hnew

theorem Sound.deliver {s : State} (h : Sound reader s) (senderUsername encryptedBlob : String) :
    Sound reader (step reader s (.deliver senderUsername encryptedBlob)) := by
  have hgrows : Grows s (step reader s (.deliver senderUsername encryptedBlob)) :=
    ⟨rfl, fun m hm => List.mem_append_left _ hm, fun _ hid => hid, fun _ hid => hid⟩
  constructor
  · show (s.delivered ++ _).map _ = List.range' 1 (s.delivered ++ _).length
    rw [List.map_append, h.numbered, List.length_append, List.length_singleton,
      List.range'_concat]
    simp [Nat.add_comm]
  · intro m hm
    rcases List.mem_append.mp hm with hold | hnew
    · exact hgrows.delivered m (h.mailbox m hold)
    · exact List.mem_append_right _ hnew
  · exact fun run hrun m hm => hgrows.delivered m (h.fetches run hrun m hm)
  · exact fun run hrun m hm => hgrows.delivered m (h.polls run hrun m hm)
  · exact fun messageId hid => (h.processed messageId hid).grow hgrows
  · exact fun run hrun messageId hid => (h.pending run hrun messageId hid).grow hgrows
  · exact fun messageId hid => (h.acknowledged messageId hid).grow hgrows

/-- One request of either reader, when the relay gets it. -/
theorem Sound.acknowledge {s : State} (h : Sound reader s) {messageIds : List Nat}
    (hhandled : ∀ messageId ∈ messageIds, HandledId reader s messageId) :
    Sound reader (s.acknowledge messageIds) := by
  have hgrows : Grows s (s.acknowledge messageIds) :=
    ⟨rfl, fun _ hm => hm, fun _ hid => hid, fun _ hid => hid⟩
  refine h.next hgrows rfl ?_ h.fetches h.polls (fun _ hid => .inl hid)
    (fun run hrun _ hid => .inl ⟨run, hrun, hid⟩) ?_
  · exact fun m hm => h.mailbox m (List.mem_of_mem_filter hm)
  · intro messageId hid
    rcases List.mem_append.mp hid with hold | hnew
    · exact .inl hold
    · exact .inr ((hhandled messageId hnew).grow hgrows)

/-- Changes to the runs of `fetch` alone. -/
theorem Sound.withFetches {s : State} (h : Sound reader s) {fetches : List FetchRun}
    (hfetches : ∀ run ∈ fetches, ∀ m ∈ run.rest, m ∈ s.delivered) :
    Sound reader { s with fetches } :=
  h.next ⟨rfl, fun _ hm => hm, fun _ hid => hid, fun _ hid => hid⟩ rfl h.mailbox hfetches h.polls
    (fun _ hid => .inl hid) (fun run hrun _ hid => .inl ⟨run, hrun, hid⟩) (fun _ hid => .inl hid)

theorem Sound.fetchEnd {s : State} (h : Sound reader s) (index : Nat) (arrives : Bool)
    (run : FetchRun) : Sound reader (fetchEnd s index arrives run) := by
  unfold Inbox.fetchEnd
  split
  · have hended : Sound reader { s with fetches := s.fetches.eraseIdx index } :=
      h.withFetches fun run hrun => h.fetches run (List.mem_of_mem_eraseIdx hrun)
    dsimp only
    split
    · apply hended.acknowledge
      intro messageId hid
      exact hended.processed messageId (List.mem_of_mem_filter hid)
    · exact hended
  · exact h

theorem Sound.pollEnd {s : State} (h : Sound reader s) {index : Nat} (arrives : Bool)
    {run : PollRun} (hrun : run ∈ s.polls) : Sound reader (pollEnd s index arrives run) := by
  unfold Inbox.pollEnd
  split
  · next messageId hpending =>
      have hnext : Sound reader { s with polls := s.polls.set index { run with pending := none } } := by
        refine h.next ⟨rfl, fun _ hm => hm, fun _ hid => hid, fun _ hid => hid⟩ rfl h.mailbox
          h.fetches ?_ (fun _ hid => .inl hid) ?_ (fun _ hid => .inl hid)
        · intro run' hrun'
          rcases List.mem_or_eq_of_mem_set hrun' with hold | rfl
          · exact h.polls run' hold
          · exact h.polls run hrun
        · intro run' hrun' id hid
          rcases List.mem_or_eq_of_mem_set hrun' with hold | rfl
          · exact .inl ⟨run', hold, hid⟩
          · cases hid
      dsimp only
      split
      · apply hnext.acknowledge
        intro id hid
        obtain rfl := List.mem_singleton.mp hid
        exact (h.pending run hrun id hpending).grow
          ⟨rfl, fun _ hm => hm, fun _ hid => hid, fun _ hid => hid⟩
      · exact hnext
  · exact h

theorem mem_markRelayMessageProcessed {processed : List Nat} {messageId id : Nat}
    (h : id ∈ markRelayMessageProcessed processed messageId) :
    id ∈ processed ∨ id = messageId := by
  unfold markRelayMessageProcessed at h
  split at h
  · exact .inl h
  · rcases List.mem_append.mp h with hold | hnew
    · exact .inl hold
    · exact .inr (List.mem_singleton.mp hnew)

theorem nextFetch?_eq {s : State} {index : Nat} {run : FetchRun} {rest : List InboxMessage}
    (hrun : s.fetches[index]? = some run) (hrest : run.rest = m :: rest)
    (hnew : m.messageId ∉ s.processed) : s.nextFetch? index = some m := by
  rw [State.nextFetch?, hrun]
  simp [hrest, hnew]

/-- An iteration of `fetch` on a message that it may take up. -/
theorem Sound.fetchStep {s : State} (h : Sound reader s) {index : Nat} {outcome : Outcome}
    {run : FetchRun} (hrun : s.fetches[index]? = some run)
    (hspares : Spares reader s (.fetchMessage index outcome)) :
    Sound reader (fetchStep reader s index outcome run) := by
  have hmem : run ∈ s.fetches := List.mem_of_getElem? hrun
  unfold Inbox.fetchStep
  split
  · exact h
  next m rest hrest =>
  have hm : m ∈ s.delivered := h.fetches run hmem m (by simp [hrest])
  have hruns : ∀ run' ∈ s.fetches.set index { run with rest }, ∀ m ∈ run'.rest,
      m ∈ s.delivered := by
    intro run' hrun' m' hm'
    rcases List.mem_or_eq_of_mem_set hrun' with hold | rfl
    · exact h.fetches run' hold m' hm'
    · exact h.fetches run hmem m' (by simp [hrest, hm'])
  split
  · exact h.withFetches hruns
  next hnew =>
  have hsession := hspares m (nextFetch?_eq hrun hrest hnew)
  dsimp only
  generalize hverdict : reader.fetchMessage s.db.contacts outcome m = verdict
  refine h.next ⟨rfl, fun _ hm => hm, fun _ hid => hid, ?_⟩ rfl h.mailbox ?_ h.polls ?_
    (fun run' hrun' _ hid => .inl ⟨run', hrun', hid⟩) (fun _ hid => .inl hid)
  · intro id hid
    dsimp only
    split
    · exact List.mem_append_left _ hid
    · exact hid
  · dsimp only
    split
    · exact fun run' hrun' => h.fetches run' (List.mem_of_mem_eraseIdx hrun')
    · exact hruns
  · -- a message that gets marked was accepted, or is not of the first protocol
    intro id hid
    dsimp only at hid
    split at hid
    · next hmarks =>
        rcases mem_markRelayMessageProcessed hid with hold | rfl
        · exact .inl hold
        · refine .inr ⟨m, hm, rfl, hsession, ?_⟩
          rintro ⟨contact, key, envelope, hreading⟩
          have hskipped := hreading.not_skipped outcome
          dsimp only at hskipped
          rw [hverdict] at hskipped
          cases verdict with
          | accepted => exact List.mem_append_right _ (List.mem_singleton_self _)
          | skipped => exact absurd rfl hskipped
          | left => cases hmarks
          | raised => cases hmarks
    · exact .inl hid

theorem pollMessage_contacts (reader : Reader) (ctx : IngestContext) (db : Db) (error : String)
    (m : InboxMessage) : (reader.pollMessage ctx db error m).1.contacts = db.contacts := by
  unfold Reader.pollMessage
  split
  · rfl
  split
  · rfl
  split
  · next raw _ =>
      have hcontacts := (ingestEnvelope_outside ctx db raw).2.1
      split
      · exact hcontacts
      · exact hcontacts
  · rfl

/-- An iteration of `poll_relay_and_process`. -/
theorem Sound.pollStep {s : State} (h : Sound reader s) {index : Nat} (ctx : IngestContext)
    (error : String) {run : PollRun} (hrun : run ∈ s.polls) :
    Sound reader (pollStep reader s index ctx error run) := by
  unfold Inbox.pollStep
  split
  · next m rest _ hrest =>
      have hm : m ∈ s.delivered := h.polls run hrun m (by simp [hrest])
      have hcontacts := pollMessage_contacts reader ctx s.db error m
      have hv1 : (reader.pollMessage ctx s.db error m).2 = true →
          ¬IsV1Envelope reader s.db.contacts m := not_v1_of_polled
      generalize reader.pollMessage ctx s.db error m = result at hcontacts hv1
      obtain ⟨db, accepted⟩ := result
      dsimp only at hcontacts hv1 ⊢
      have hgrows : ∀ polls, Grows s
          { s with db, polls, ingested := if accepted then s.ingested ++ [m.messageId]
            else s.ingested } := by
        intro polls
        refine ⟨hcontacts, fun _ hm => hm, ?_, fun _ hid => hid⟩
        intro id hid
        dsimp only
        split
        · exact List.mem_append_left _ hid
        · exact hid
      refine h.next (hgrows _) rfl h.mailbox h.fetches ?_ (fun _ hid => .inl hid) ?_
        (fun _ hid => .inl hid)
      · intro run' hrun' m' hm'
        rcases List.mem_or_eq_of_mem_set hrun' with hold | rfl
        · exact h.polls run' hold m' hm'
        · exact h.polls run hrun m' (by simp [hrest, hm'])
      · -- what is about to be acknowledged was ingested just now
        intro run' hrun' id hid
        rcases List.mem_or_eq_of_mem_set hrun' with hold | rfl
        · exact .inl ⟨run', hold, hid⟩
        · cases accepted with
          | false => cases hid
          | true =>
              cases hid
              refine .inr ⟨m, hm, rfl, ?_, ?_⟩
              · exact fun _ => List.mem_append_right _ (List.mem_singleton_self _)
              · intro hkind
                dsimp only at hkind
                rw [hcontacts] at hkind
                exact absurd hkind (hv1 rfl)
  · exact h

theorem Sound.step {s : State} (h : Sound reader s) {action : Action}
    (hspares : Spares reader s action) : Sound reader (step reader s action) := by
  cases action with
  | deliver senderUsername encryptedBlob => exact h.deliver senderUsername encryptedBlob
  | expire messageId =>
      exact h.next ⟨rfl, fun _ hm => hm, fun _ hid => hid, fun _ hid => hid⟩ rfl
        (fun m hm => h.mailbox m (List.mem_of_mem_filter hm)) h.fetches h.polls
        (fun _ hid => .inl hid) (fun run hrun _ hid => .inl ⟨run, hrun, hid⟩)
        (fun _ hid => .inl hid)
  | elsewhere db =>
      exact h.next ⟨rfl, fun _ hm => hm, fun _ hid => hid, fun _ hid => hid⟩ rfl h.mailbox
        h.fetches h.polls (fun _ hid => .inl hid)
        (fun run hrun _ hid => .inl ⟨run, hrun, hid⟩) (fun _ hid => .inl hid)
  | fetchStart =>
      apply h.withFetches
      intro run hrun m hm
      rcases List.mem_append.mp hrun with hold | hnew
      · exact h.fetches run hold m hm
      · obtain rfl := List.mem_singleton.mp hnew
        exact h.mailbox m hm
  | fetchMessage run outcome =>
      rw [Inbox.step]
      split
      · next r hrun => exact h.fetchStep hrun hspares
      · exact h
  | fetchAcknowledge run arrives =>
      rw [Inbox.step]
      split
      · exact h.fetchEnd run arrives _
      · exact h
  | pollStart =>
      refine h.next ⟨rfl, fun _ hm => hm, fun _ hid => hid, fun _ hid => hid⟩ rfl h.mailbox
        h.fetches ?_ (fun _ hid => .inl hid) ?_ (fun _ hid => .inl hid)
      · intro run hrun m hm
        rcases List.mem_append.mp hrun with hold | hnew
        · exact h.polls run hold m hm
        · obtain rfl := List.mem_singleton.mp hnew
          exact h.mailbox m hm
      · intro run hrun id hid
        rcases List.mem_append.mp hrun with hold | hnew
        · exact .inl ⟨run, hold, hid⟩
        · obtain rfl := List.mem_singleton.mp hnew
          cases hid
  | pollMessage run ctx error =>
      rw [Inbox.step]
      split
      · next r hrun => exact h.pollStep ctx error (List.mem_of_getElem? hrun)
      · exact h
  | pollAcknowledge run arrives =>
      rw [Inbox.step]
      split
      · next r hrun => exact h.pollEnd arrives (List.mem_of_getElem? hrun)
      · exact h

/-- In every run in which `fetch` comes to session envelopes only after they were ingested,
nothing is ever acknowledged unprocessed. -/
theorem nothing_acknowledged_unprocessed (reader : Reader) (db : Db) (actions : List Action)
    (hspares : Along (step reader) (Spares reader) (State.initial db) actions) :
    ∀ done later, actions = done ++ later →
      NothingUnprocessed reader (run (step reader) (State.initial db) done) := by
  rintro done later rfl
  have hdone := (along_append.mp hspares).1
  have hsound : Sound reader (run (step reader) (State.initial db) done) :=
    run_of_along (fun _ _ h hs => h.step hs) (sound_initial reader db) hdone
  exact hsound.nothingUnprocessed

/-! ### A session envelope from a verified contact -/

namespace Sample

open Kin.Transport.Sample (externals context envelope request)

def taskRequest : Fields := envelope "s1" "alice" "scout" 1 .taskRequest request

/-- `bob` reads the blob `00` as a task request of `alice`. -/
def bobReader : Reader where
  ext := externals
  privateKey := "bob"
  loads bytes := if bytes = [0] then some (.obj taskRequest) else none

def bobDb : Db := Db.fresh (some "bob") [⟨"alice", none, some "aa", some "alice", true⟩] []

/-- The request is ingested, its acknowledgement gets lost, and `fetch` comes by. -/
def polledFirst : List Action :=
  [.deliver "alice" "00", .pollStart, .pollMessage 0 context "", .pollAcknowledge 0 false,
   .fetchStart, .fetchMessage 0 .raised, .fetchAcknowledge 0 true]

/-- `fetch` comes by first. -/
def fetchedFirst : List Action :=
  [.deliver "alice" "00", .fetchStart, .fetchMessage 0 .raised, .fetchAcknowledge 0 true]

end Sample

theorem polled_request_acknowledged :
    Along (step Sample.bobReader) (Spares Sample.bobReader) (State.initial Sample.bobDb)
      Sample.polledFirst ∧
    NothingUnprocessed Sample.bobReader
      (run (step Sample.bobReader) (State.initial Sample.bobDb) Sample.polledFirst) := by
  have hfetch : ∀ m, (run (step Sample.bobReader) (State.initial Sample.bobDb)
      (Sample.polledFirst.take 5)).nextFetch? 0 = some m → m.messageId = 1 := by
    have hnext : ((run (step Sample.bobReader) (State.initial Sample.bobDb)
        (Sample.polledFirst.take 5)).nextFetch? 0).map (·.messageId) = some 1 := by decide +kernel
    intro m hm
    rw [hm] at hnext
    exact Option.some.inj hnext
  have hingested : (run (step Sample.bobReader) (State.initial Sample.bobDb)
      (Sample.polledFirst.take 5)).ingested = [1] := by decide +kernel
  have hspares : Along (step Sample.bobReader) (Spares Sample.bobReader) (State.initial Sample.bobDb)
      Sample.polledFirst := by
    refine ⟨trivial, trivial, trivial, trivial, trivial, ?_, trivial, trivial⟩
    intro m hm _
    rw [hfetch m hm]
    exact hingested ▸ List.mem_singleton_self 1
  exact ⟨hspares, nothing_acknowledged_unprocessed Sample.bobReader Sample.bobDb Sample.polledFirst
    hspares Sample.polledFirst [] (List.append_nil _).symm⟩

/-- `fetch` acknowledges a session envelope that nothing has ingested. -/
theorem fetch_acknowledges_session_envelope :
    ¬NothingUnprocessed Sample.bobReader
      (run (step Sample.bobReader) (State.initial Sample.bobDb) Sample.fetchedFirst) := by
  intro h
  have hack : 1 ∈ (run (step Sample.bobReader) (State.initial Sample.bobDb)
      Sample.fetchedFirst).acknowledged := by decide +kernel
  have hingested : (run (step Sample.bobReader) (State.initial Sample.bobDb)
      Sample.fetchedFirst).ingested = [] := by decide +kernel
  have hvalid : (validateEnvelope Sample.taskRequest).isSome = true := by decide +kernel
  obtain ⟨session, hsession⟩ := Option.isSome_iff_exists.mp hvalid
  have hhandled := h ⟨1, "alice", "00"⟩ List.mem_cons_self hack
  have hmem := hhandled.session ⟨"aa", Sample.taskRequest, session, rfl, hsession⟩
  rw [hingested] at hmem
  cases hmem

end Kin.Inbox
