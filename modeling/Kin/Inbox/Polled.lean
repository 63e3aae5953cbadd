import Kin.Inbox.Acknowledged
import Kin.Node.Redelivery

/-!
A mailbox that only `poll_relay_and_process` reads. An envelope leaves it by an acknowledgement,
and what is acknowledged is in the log of the node: whatever got lost on the way, a message is
still in the mailbox or its envelope is stored.
-/

namespace Kin.Inbox

open Kin.Py Kin.Lib Kin.Schemas Kin.Session Kin.Storage Kin.Audit Kin.Transport Kin.Node
open Kin.Relay (InboxMessage)

variable {reader : Reader} {ctx : IngestContext} {db db' : Db} {m : InboxMessage}
  {raw body : Fields}

/-! ### Acknowledgements of `ingest_envelope` -/

/-- An answer other than `rejected` is `delivered`. -/
def Decided (exit : Exit) : Prop :=
  ∀ ack, exit = .ok ack → ack.status = .delivered ∨ ack.status = .rejected

theorem decided_deliveredAck {envelope : SessionEnvelope} :
    Decided (deliveredAck ctx raw envelope) :=
  fun _ h => .inl (status_of_acknowledgement h)

theorem decided_of_declines {exit : Exit} (h : Declines exit) : Decided exit :=
  fun ack hexit => .inr (h ack hexit)

theorem decided_handleOffer (committed : Committed) :
    Decided (handleOffer ctx db raw committed).exit := by
  unfold handleOffer
  simp only
  split
  · exact decided_of_declines (declines_error _)
  · exact decided_deliveredAck
  split
  · exact decided_of_declines (declines_error _)
  split
  · exact decided_deliveredAck
  split
  · exact decided_of_declines (declines_error _)
  · exact decided_deliveredAck

theorem decided_ingestEnvelope (ctx : IngestContext) (db : Db) (raw : Fields) :
    Decided (ingestEnvelope ctx db raw).exit := by
  cases hver : verified? ctx db raw with
  | none =>
      obtain ⟨exit, heq⟩ := ingestCommit_of_unverified hver
      rw [ingestEnvelope, heq]
      exact decided_of_declines (declines_unverified hver heq)
  | some envelope =>
      cases hstored :
          storedEvent? db envelope.sessionId envelope.actorUsername envelope.sequence with
      | some event =>
          rw [(ingestEnvelope_of_repeated hver hstored).2]
          split
          · exact decided_deliveredAck
          · exact decided_of_declines declines_rejectVerified
      | none =>
          unfold ingestEnvelope
          split
          · rename_i heq
            refine decided_of_declines (declines_ingestCommit ?_ heq)
            intro envelope' hver'
            rw [hver] at hver'
            cases hver'
            exact hstored
          · split
            · exact decided_handleOffer _
            · exact decided_deliveredAck

/-! ### What is stored -/

/-- The log has the envelope of the body: an event under its number, with the hash of its
payload. -/
def Stored (ext : Schemas.Externals) (db : Db) (body : Fields) : Prop :=
  ∃ envelope event, validateEnvelope body = some envelope ∧
    storedEvent? db envelope.sessionId envelope.actorUsername envelope.sequence = some event ∧
    canonicalPayloadHash ext (some (.obj envelope.payload)) =
      canonicalPayloadHash ext event.payload

theorem Stored.grow {ext : Schemas.Externals} (h : Stored ext db body)
    (hpre : db.sessionEvents <+: db'.sessionEvents) : Stored ext db' body := by
  obtain ⟨envelope, event, hvalid, hstored, hhash⟩ := h
  exact ⟨envelope, event, hvalid, storedEvent?_of_prefix hpre hstored, hhash⟩

theorem stored_of_delivered (h : Delivered ctx db raw) :
    Stored ctx.ext (ingestEnvelope ctx db raw).db raw := by
  obtain ⟨envelope, event, hver, hstored, hhash⟩ := Node.stored_of_delivered h
  exact ⟨envelope, event, validateEnvelope_of_verified hver, hstored, hhash⟩

def Carries (reader : Reader) (db : Db) (m : InboxMessage) (body : Fields) : Prop :=
  ∃ key, (db.resolvePeerContactInfo m.senderUsername).2.1 = some key ∧
    reader.open? key m = some (.obj body)

theorem Carries.unique {body' : Fields} (h : Carries reader db m body)
    (h' : Carries reader db m body') : body' = body := by
  obtain ⟨key, hkey, hopen⟩ := h
  obtain ⟨key', hkey', hopen'⟩ := h'
  rw [hkey] at hkey'
  cases hkey'
  rw [hopen] at hopen'
  cases hopen'
  rfl

theorem carries_congr (h : db'.contacts = db.contacts) :
    Carries reader db' m body ↔ Carries reader db m body := by
  rw [Carries, resolvePeerContactInfo_congr h, Carries]

theorem delivered_of_pollMessage {error : String}
    (h : (reader.pollMessage ctx db error m).2 = true) :
    ∃ raw, Carries reader db m raw ∧ Delivered ctx db raw ∧
      (reader.pollMessage ctx db error m).1 = (ingestEnvelope ctx db raw).db := by
  unfold Reader.pollMessage at h ⊢
  split at h
  · cases h
  rename_i hhex
  rw [if_neg hhex]
  split at h
  · cases h
  rename_i key hkey
  split at h
  · rename_i raw hopen
    split at h
    · rename_i ack hexit
      refine ⟨raw, ⟨key, hkey, hopen⟩, ⟨ack, hexit, ?_⟩, ?_⟩
      · exact (decided_ingestEnvelope ctx db raw ack hexit).resolve_right (by simpa using h)
      · rfl
    · cases h
  · cases h

/-- A poll adds to the log at most. -/
theorem pollMessage_prefix (reader : Reader) (ctx : IngestContext) (db : Db) (error : String)
    (m : InboxMessage) :
    db.sessionEvents <+: (reader.pollMessage ctx db error m).1.sessionEvents := by
  have hpre : ∀ raw, db.sessionEvents <+: (ingestEnvelope ctx db raw).db.sessionEvents :=
    fun raw => sessionEvents_prefix_step db (.ingest ctx raw)
  unfold Reader.pollMessage
  split
  · exact List.prefix_rfl
  split
  · exact List.prefix_rfl
  split
  · split
    · exact hpre _
    · exact hpre _
  · exact List.prefix_rfl

/-! ### Runs -/

/-- Neither `fetch` nor the expiry of the relay touches the mailbox, and what the rest of the
node does keeps the log. -/
def PollsOnly (reader : Reader) (s : State) : Action → Prop
  | .deliver _ _ => True
  | .pollStart => True
  | .pollMessage _ ctx _ => ctx.ext = reader.ext
  | .pollAcknowledge _ _ => True
  | .elsewhere db => s.db.sessionEvents <+: db.sessionEvents
  | .expire _ => False
  | .fetchStart => False
  | .fetchMessage _ _ => False
  | .fetchAcknowledge _ _ => False

def TakenId (reader : Reader) (s : State) (messageId : Nat) : Prop :=
  ∃ m ∈ s.delivered, m.messageId = messageId ∧
    ∀ body, Carries reader s.db m body → Stored reader.ext s.db body

structure Kept (reader : Reader) (s : State) : Prop where
  sound : Sound reader s
  mailbox : ∀ m ∈ s.delivered, m ∈ s.mailbox ∨ m.messageId ∈ s.acknowledged
  pending : ∀ run ∈ s.polls, ∀ messageId, run.pending = some messageId → TakenId reader s messageId
  acknowledged : ∀ messageId ∈ s.acknowledged, TakenId reader s messageId

theorem kept_initial (reader : Reader) (db : Db) : Kept reader (State.initial db) where
  sound := sound_initial reader db
  mailbox _ hm := by cases hm
  pending _ hrun := by cases hrun
  acknowledged _ hid := by cases hid

theorem TakenId.grow {s s' : State} {messageId : Nat} (h : TakenId reader s messageId)
    (hdelivered : ∀ m ∈ s.delivered, m ∈ s'.delivered) (hcontacts : s'.db.contacts = s.db.contacts)
    (hpre : s.db.sessionEvents <+: s'.db.sessionEvents) : TakenId reader s' messageId := by
  obtain ⟨m, hm, hid, hstored⟩ := h
  refine ⟨m, hdelivered m hm, hid, fun body hcarries => ?_⟩
  exact (hstored body ((carries_congr hcontacts).mp hcarries)).grow hpre

/-- A message is in the mailbox, or its envelope is in the log. -/
theorem Kept.stored {s : State} (h : Kept reader s) (hm : m ∈ s.delivered) :
    m ∈ s.mailbox ∨ ∀ body, Carries reader s.db m body → Stored reader.ext s.db body := by
  rcases h.mailbox m hm with hmail | hack
  · exact .inl hmail
  · obtain ⟨m', hm', hid, hstored⟩ := h.acknowledged m.messageId hack
    rw [h.sound.eq_of_id hm' hm hid] at hstored
    exact .inr hstored

theorem Kept.acknowledge {s : State} (h : Kept reader s) {ids : List Nat}
    (hsound : Sound reader (s.acknowledge ids))
    (htaken : ∀ messageId ∈ ids, TakenId reader s messageId) :
    Kept reader (s.acknowledge ids) where
  sound := hsound
  mailbox m hm := by
    rcases h.mailbox m hm with hmail | hack
    · by_cases hid : m.messageId ∈ ids
      · exact .inr (List.mem_append_right _ hid)
      · exact .inl (List.mem_filter.mpr ⟨hmail, by simpa using hid⟩)
    · exact .inr (List.mem_append_left _ hack)
  pending := h.pending
  acknowledged messageId hid := by
    rcases List.mem_append.mp hid with hold | hnew
    · exact h.acknowledged messageId hold
    · exact htaken messageId hnew

/-- An iteration of a poll. -/
theorem Kept.pollStep {s : State} (h : Kept reader s) {index : Nat} {error : String}
    (hext : ctx.ext = reader.ext) {run : PollRun} (hrun : run ∈ s.polls) :
    Kept reader (pollStep reader s index ctx error run) := by
  have hsound : Sound reader (Inbox.pollStep reader s index ctx error run) :=
    h.sound.pollStep ctx error hrun
  revert hsound
  unfold Inbox.pollStep
  split
  · rename_i m rest hpending hrest
    have hm : m ∈ s.delivered := h.sound.polls run hrun m (by simp [hrest])
    have hcontacts := pollMessage_contacts reader ctx s.db error m
    have hpre := pollMessage_prefix reader ctx s.db error m
    have haccepted : (reader.pollMessage ctx s.db error m).2 = true →
        ∃ raw, Carries reader s.db m raw ∧ Delivered ctx s.db raw ∧
          (reader.pollMessage ctx s.db error m).1 = (ingestEnvelope ctx s.db raw).db :=
      delivered_of_pollMessage
    generalize reader.pollMessage ctx s.db error m = result at hcontacts hpre haccepted
    obtain ⟨db, accepted⟩ := result
    dsimp only at hcontacts hpre haccepted ⊢
    intro hsound
    have hgrow : ∀ {messageId}, TakenId reader s messageId →
        TakenId reader { s with
          db := db
          polls := s.polls.set index ⟨rest, if accepted then some m.messageId else none⟩
          ingested := if accepted then s.ingested ++ [m.messageId] else s.ingested } messageId :=
      fun htaken => htaken.grow (fun _ hm => hm) hcontacts hpre
    refine ⟨hsound, h.mailbox, ?_, fun messageId hid => hgrow (h.acknowledged messageId hid)⟩
    intro run' hrun' messageId hid
    rcases List.mem_or_eq_of_mem_set hrun' with hold | rfl
    · exact hgrow (h.pending run' hold messageId hid)
    · cases haccept : accepted with
      | false =>
          rw [haccept] at hid
          cases hid
      | true =>
          rw [haccept] at hid
          obtain rfl := Option.some.inj hid
          obtain ⟨raw, hcarries, hdelivered, hdb⟩ := haccepted haccept
          refine ⟨m, hm, rfl, fun body hbody => ?_⟩
          rw [hcarries.unique ((carries_congr hcontacts).mp hbody)]
          show Stored reader.ext db raw
          rw [hdb, ← hext]
          exact stored_of_delivered hdelivered
  · exact fun _ => h

theorem Kept.pollEnd {s : State} (h : Kept reader s) {index : Nat} (arrives : Bool)
    {run : PollRun} (hrun : run ∈ s.polls) : Kept reader (pollEnd s index arrives run) := by
  have hsound : ∀ arrives, Sound reader (Inbox.pollEnd s index arrives run) :=
    fun arrives => h.sound.pollEnd arrives hrun
  unfold Inbox.pollEnd at hsound ⊢
  cases hpending : run.pending with
  | none => exact h
  | some messageId =>
      simp only [hpending] at hsound
      have hnext : Kept reader
          { s with polls := s.polls.set index { run with pending := none } } := by
        refine ⟨hsound false, h.mailbox, fun run' hrun' id hid => ?_, h.acknowledged⟩
        rcases List.mem_or_eq_of_mem_set hrun' with hold | rfl
        · exact h.pending run' hold id hid
        · cases hid
      cases arrives with
      | false => exact hnext
      | true =>
          refine hnext.acknowledge (hsound true) fun id hid => ?_
          obtain rfl := List.mem_singleton.mp hid
          exact h.pending run hrun id hpending

theorem Kept.step {s : State} (h : Kept reader s) {action : Action}
    (hpolls : PollsOnly reader s action) : Kept reader (step reader s action) := by
  have hsound : Sound reader (Inbox.step reader s action) := by
    refine h.sound.step ?_
    cases action with
    | fetchMessage run outcome => exact hpolls.elim
    | _ => trivial
  cases action with
  | deliver senderUsername encryptedBlob =>
      have hgrow : ∀ {messageId}, TakenId reader s messageId → TakenId reader
          (Inbox.step reader s (.deliver senderUsername encryptedBlob)) messageId :=
        fun htaken => htaken.grow (fun m hm => List.mem_append_left _ hm) rfl List.prefix_rfl
      refine ⟨hsound, fun m hm => ?_, fun run hrun id hid => hgrow (h.pending run hrun id hid),
        fun id hid => hgrow (h.acknowledged id hid)⟩
      rcases List.mem_append.mp hm with hold | hnew
      · exact (h.mailbox m hold).imp_left (List.mem_append_left _)
      · exact .inl (List.mem_append_right _ hnew)
  | expire messageId => exact hpolls.elim
  | elsewhere db =>
      have hgrow : ∀ {messageId}, TakenId reader s messageId →
          TakenId reader (Inbox.step reader s (.elsewhere db)) messageId :=
        fun htaken => htaken.grow (fun _ hm => hm) rfl hpolls
      exact ⟨hsound, h.mailbox, fun run hrun id hid => hgrow (h.pending run hrun id hid),
        fun id hid => hgrow (h.acknowledged id hid)⟩
  | fetchStart => exact hpolls.elim
  | fetchMessage run outcome => exact hpolls.elim
  | fetchAcknowledge run arrives => exact hpolls.elim
  | pollStart =>
      refine ⟨hsound, h.mailbox, fun run hrun id hid => ?_, h.acknowledged⟩
      rcases List.mem_append.mp hrun with hold | hnew
      · exact h.pending run hold id hid
      · rw [List.mem_singleton.mp hnew] at hid
        cases hid
  | pollMessage run ctx error =>
      rw [Inbox.step]
      split
      · rename_i hrun
        exact h.pollStep hpolls (List.mem_of_getElem? hrun)
      · exact h
  | pollAcknowledge run arrives =>
      rw [Inbox.step]
      split
      · rename_i hrun
        exact h.pollEnd arrives (List.mem_of_getElem? hrun)
      · exact h

/-- No step forgets a message, changes a contact or takes an event from the log. -/
structure Later (s s' : State) : Prop where
  delivered : ∀ m ∈ s.delivered, m ∈ s'.delivered
  contacts : s'.db.contacts = s.db.contacts
  log : s.db.sessionEvents <+: s'.db.sessionEvents

theorem Later.refl (s : State) : Later s s := ⟨fun _ hm => hm, rfl, List.prefix_rfl⟩

theorem later_step {s : State} {action : Action} (hpolls : PollsOnly reader s action) :
    Later s (step reader s action) := by
  cases action with
  | deliver senderUsername encryptedBlob =>
      exact ⟨fun m hm => List.mem_append_left _ hm, rfl, List.prefix_rfl⟩
  | expire messageId => exact hpolls.elim
  | elsewhere db => exact ⟨fun _ hm => hm, rfl, hpolls⟩
  | fetchStart => exact hpolls.elim
  | fetchMessage run outcome => exact hpolls.elim
  | fetchAcknowledge run arrives => exact hpolls.elim
  | pollStart => exact ⟨fun _ hm => hm, rfl, List.prefix_rfl⟩
  | pollMessage run ctx error =>
      rw [Inbox.step]
      split
      · unfold Inbox.pollStep
        split
        · exact ⟨fun _ hm => hm, pollMessage_contacts .., pollMessage_prefix ..⟩
        · exact .refl s
      · exact .refl s
  | pollAcknowledge run arrives =>
      rw [Inbox.step]
      split
      · unfold Inbox.pollEnd
        split
        · dsimp only
          split <;> exact ⟨fun _ hm => hm, rfl, List.prefix_rfl⟩
        · exact .refl s
      · exact .refl s

end Kin.Inbox
