import Kin.Relay.Signing
import Mathlib.Data.List.Induction

/-!
The history of a relay: its requests with their responses. From it alone one
reads which messages were delivered and which of them an acknowledgement removed.
The mailbox table follows the history, but for expired rows that a fetch has
cleaned up.
-/

namespace Kin.Relay

open Kin.Lib Kin.Py

/-! ### Histories -/

structure Exchange where
  arrival : Arrival
  response : Response

/-- A relay with everything it was asked and answered so far. -/
structure Service where
  db : RelayDb
  exchanges : List Exchange

def step (ext : Externals) (service : Service) (arrival : Arrival) : Service where
  db := (handle ext service.db arrival).2
  exchanges := service.exchanges ++ [⟨arrival, (handle ext service.db arrival).1⟩]

/-- The relay after a list of requests, the tables new before it. -/
def after (ext : Externals) (arrivals : List Arrival) : Service :=
  run (step ext) ⟨createSchema, []⟩ arrivals

theorem after_snoc (ext : Externals) (arrivals : List Arrival) (arrival : Arrival) :
    after ext (arrivals ++ [arrival]) = step ext (after ext arrivals) arrival := by
  rw [after, run_append]
  rfl

/-- The clock never goes back. -/
def NonDecreasing (arrivals : List Arrival) : Prop :=
  (arrivals.flatMap fun a => [a.now.instant, a.later.instant]).Pairwise (· ≤ ·)

/-! ### What a history says -/

/-- An accepted message: its number among the accepted ones, and its seven days. -/
structure Delivery where
  messageId : Nat
  username : String
  senderUsername : String
  encryptedBlob : String
  receivedAt : Datetime
  expiresAt : Datetime
  expiresAt_eq : receivedAt.addDays? 7 = some expiresAt

/-- The message that an exchange put into a mailbox, after `count` others. -/
def Exchange.delivery? (x : Exchange) (count : Nat) : Option Delivery :=
  match x.arrival.request, x.response with
  | .deliver username senderUsername encryptedBlob, .queued =>
      match h : x.arrival.now.addDays? 7 with
      | some expiresAt =>
          some ⟨count + 1, username, senderUsername, encryptedBlob, x.arrival.now, expiresAt, h⟩
      | none => none
  | _, _ => none

def deliveries (exchanges : List Exchange) : List Delivery :=
  exchanges.foldl (fun ds x => ds ++ (x.delivery? ds.length).toList) []

/-- An accepted acknowledgement by the owner of a mailbox that lists the message. -/
def Exchange.acknowledges (x : Exchange) (d : Delivery) : Bool :=
  match x.arrival.request, x.response with
  | .acknowledgeInbox messageIds headers, .acknowledged _ =>
      headers.xUsername == some d.username && messageIds.contains (d.messageId : Int)
  | _, _ => false

def Removed (exchanges : List Exchange) (d : Delivery) : Prop :=
  ∃ earlier x later, exchanges = earlier ++ x :: later ∧ d ∈ deliveries earlier ∧
    x.acknowledges d = true

theorem deliveries_snoc (exchanges : List Exchange) (x : Exchange) :
    deliveries (exchanges ++ [x]) =
      deliveries exchanges ++ (x.delivery? (deliveries exchanges).length).toList := by
  rw [deliveries, List.foldl_append]
  rfl

theorem deliveries_subset (earlier later : List Exchange) {d : Delivery}
    (h : d ∈ deliveries earlier) : d ∈ deliveries (earlier ++ later) := by
  induction later using List.reverseRecOn with
  | nil =>
      rw [List.append_nil]
      exact h
  | append_singleton later x ih =>
      rw [← List.append_assoc, deliveries_snoc]
      exact List.mem_append_left _ ih

theorem messageId_of_delivery? {x : Exchange} {count : Nat} {d : Delivery}
    (h : x.delivery? count = some d) : d.messageId = count + 1 := by
  unfold Exchange.delivery? at h
  split at h
  · split at h
    · cases h
      rfl
    · cases h
  · cases h

theorem messageId_le {exchanges : List Exchange} {d : Delivery} (h : d ∈ deliveries exchanges) :
    d.messageId ≤ (deliveries exchanges).length := by
  induction exchanges using List.reverseRecOn with
  | nil => cases h
  | append_singleton exchanges x ih =>
      rw [deliveries_snoc, List.mem_append, Option.mem_toList] at h
      rw [deliveries_snoc, List.length_append]
      rcases h with h | h
      · exact Nat.le_add_right_of_le (ih h)
      · rw [messageId_of_delivery? h, h]
        simp

/-- A message that was there before is removed by the earlier exchanges or by the last one. -/
theorem removed_snoc {exchanges : List Exchange} {x : Exchange} {d : Delivery}
    (h : d ∈ deliveries exchanges) :
    Removed (exchanges ++ [x]) d ↔ Removed exchanges d ∨ x.acknowledges d = true := by
  constructor
  · rintro ⟨earlier, y, later, heq, hd, hack⟩
    obtain rfl | ⟨later, z, rfl⟩ := List.eq_nil_or_concat later
    · have hparts := List.append_inj_right' heq rfl
      cases hparts
      exact .inr hack
    · rw [List.concat_eq_append, ← List.cons_append, ← List.append_assoc] at heq
      exact .inl ⟨earlier, y, later, List.append_inj_left' heq rfl, hd, hack⟩
  · rintro (⟨earlier, y, later, rfl, hd, hack⟩ | hack)
    · exact ⟨earlier, y, later ++ [x], by simp, hd, hack⟩
    · exact ⟨exchanges, x, [], rfl, h, hack⟩

/-- A message that has just come in is not removed. -/
theorem not_removed_new {exchanges : List Exchange} {x : Exchange} {d : Delivery}
    (h : x.delivery? (deliveries exchanges).length = some d) : ¬Removed (exchanges ++ [x]) d := by
  rintro ⟨earlier, y, later, heq, hd, -⟩
  -- everything before the last exchange has a smaller number
  have hold : d ∈ deliveries exchanges := by
    obtain rfl | ⟨later, z, rfl⟩ := List.eq_nil_or_concat later
    · rwa [List.append_inj_left' heq rfl]
    · rw [List.concat_eq_append, ← List.cons_append, ← List.append_assoc] at heq
      rw [List.append_inj_left' heq rfl]
      exact deliveries_subset earlier (y :: later) hd
  have hle := messageId_le hold
  rw [messageId_of_delivery? h] at hle
  omega

/-! ### What each handler does -/

theorem registerEndpoint_mailbox (db : RelayDb) (body : DirectoryEntry) :
    (registerEndpoint db body).2.mailbox = db.mailbox ∧
      (registerEndpoint db body).2.sequence = db.sequence := by
  unfold registerEndpoint
  split
  · split <;> exact ⟨rfl, rfl⟩
  · exact ⟨rfl, rfl⟩

/-- A delivery is queued, and then its row is written, or it leaves no trace. -/
theorem deliverToMailbox_cases (db : RelayDb) (now : Datetime)
    (username senderUsername encryptedBlob : String) :
    (∃ expires, now.addDays? 7 = some expires ∧
      deliverToMailbox db now username senderUsername encryptedBlob =
        (.queued,
          { db with
            mailbox := db.mailbox ++
              [⟨db.sequence + 1, username, senderUsername, encryptedBlob,
                isoformat now.instant, isoformat expires.instant⟩]
            sequence := db.sequence + 1 })) ∨
    ((deliverToMailbox db now username senderUsername encryptedBlob).1 ≠ .queued ∧
      (deliverToMailbox db now username senderUsername encryptedBlob).2 = db) := by
  unfold deliverToMailbox
  split
  · exact .inr ⟨nofun, rfl⟩
  · split
    · exact .inr ⟨nofun, rfl⟩
    · next expires hexpires =>
        split
        · exact .inl ⟨expires, hexpires, rfl⟩
        · exact .inr ⟨nofun, rfl⟩

def unexpiredRows (db : RelayDb) (username : String) (later : Datetime) : List MailboxRow :=
  db.mailbox.filter fun row =>
    decide (row.username = username ∧ isoformat later.instant ≤ row.expiresAt)

def cleanedUp (db : RelayDb) (username : String) (later : Datetime) : RelayDb :=
  { db with
    mailbox := db.mailbox.filter fun row =>
      !decide (row.username = username ∧ row.expiresAt < isoformat later.instant) }

theorem selected_after_cleanUp (db : RelayDb) (username : String) (later : Datetime) :
    ((cleanedUp db username later).mailbox.filter fun row =>
      decide (row.username = username ∧ isoformat later.instant ≤ row.expiresAt)) =
      unexpiredRows db username later := by
  rw [cleanedUp, unexpiredRows, List.filter_filter]
  apply List.filter_congr
  intro row _
  by_cases h : isoformat later.instant ≤ row.expiresAt
  · simp [h, not_lt.mpr h]
  · simp [h]

theorem fetchInbox_ok {ext : Externals} {db : RelayDb} {now : Datetime}
    {headers : InboxHeaders} {username : String}
    (h : authenticateInboxRequest ext db now headers none = .ok username) (later : Datetime) :
    (fetchInbox ext db now later headers).1 =
      .inbox ((ext.orderByReceivedAt (unexpiredRows db username later)).map fun row =>
        ⟨row.messageId, row.senderUsername, row.encryptedBlob⟩) ∧
    ((fetchInbox ext db now later headers).2 = db ∨
      (fetchInbox ext db now later headers).2 = cleanedUp db username later) := by
  have hfetch : fetchInbox ext db now later headers =
      if ext.orderByReceivedAt (unexpiredRows db username later) = [] then (.inbox [], db)
      else (.inbox ((ext.orderByReceivedAt (unexpiredRows db username later)).map fun row =>
        ⟨row.messageId, row.senderUsername, row.encryptedBlob⟩), cleanedUp db username later) := by
    rw [← selected_after_cleanUp]
    simp only [fetchInbox, h]
    rfl
  rw [hfetch]
  split
  · next hnil =>
      rw [hnil]
      exact ⟨rfl, .inl rfl⟩
  · exact ⟨rfl, .inr rfl⟩

theorem fetchInbox_error {ext : Externals} {db : RelayDb} {now later : Datetime}
    {headers : InboxHeaders} {response : Response}
    (h : authenticateInboxRequest ext db now headers none = .error response) :
    (fetchInbox ext db now later headers).2 = db := by
  simp only [fetchInbox, h]

/-- An acknowledgement is accepted from the owner and removes what it lists, or it
leaves no trace. -/
theorem acknowledgeInbox_cases (ext : Externals) (db : RelayDb) (now : Datetime)
    (messageIds : List Int) (headers : InboxHeaders) :
    (∃ username count,
      authenticateInboxRequest ext db now headers (some (ackMessage headers messageIds)) =
        .ok username ∧
      acknowledgeInbox ext db now messageIds headers =
        (.acknowledged count,
          { db with
            mailbox := db.mailbox.filter fun row =>
              !decide (row.username = username ∧ (row.messageId : Int) ∈ messageIds) })) ∨
    ((∀ count, (acknowledgeInbox ext db now messageIds headers).1 ≠ .acknowledged count) ∧
      (acknowledgeInbox ext db now messageIds headers).2 = db) := by
  unfold acknowledgeInbox
  split
  · next response hauth =>
      obtain ⟨status, detail, rfl⟩ := authenticateInboxRequest_error hauth
      exact .inr ⟨nofun, rfl⟩
  · next username hauth =>
      split
      · next hnil =>
          subst hnil
          refine .inl ⟨username, 0, hauth, ?_⟩
          simp
      · split
        · exact .inr ⟨nofun, rfl⟩
        · exact .inl ⟨username, _, hauth, rfl⟩

/-! ### The mailbox table against the history -/

def Delivery.row (d : Delivery) : MailboxRow where
  messageId := d.messageId
  username := d.username
  senderUsername := d.senderUsername
  encryptedBlob := d.encryptedBlob
  receivedAt := isoformat d.receivedAt.instant
  expiresAt := isoformat d.expiresAt.instant

def Delivery.shown (d : Delivery) : InboxMessage := ⟨d.messageId, d.senderUsername, d.encryptedBlob⟩

open Classical in
/-- The table holds, in the order of their delivery, the messages that were not removed,
without some that had expired when a fetch cleaned up. -/
structure Mirrors (service : Service) : Prop where
  sequence : service.db.sequence = (deliveries service.exchanges).length
  mailbox : ∃ cleaned : Delivery → Bool,
    (∀ d, cleaned d = true →
      ∃ x ∈ service.exchanges, d.expiresAt.instant < x.arrival.later.instant) ∧
    service.db.mailbox =
      ((deliveries service.exchanges).filter fun d =>
        !decide (Removed service.exchanges d) && !cleaned d).map Delivery.row

structure Exchange.Silent (x : Exchange) : Prop where
  delivery? : ∀ count, x.delivery? count = none
  acknowledges : ∀ d, x.acknowledges d = false

theorem deliveries_silent {exchanges : List Exchange} {x : Exchange} (h : x.Silent) :
    deliveries (exchanges ++ [x]) = deliveries exchanges := by
  rw [deliveries_snoc, h.delivery?, Option.toList_none, List.append_nil]

theorem removed_silent {exchanges : List Exchange} {x : Exchange} {d : Delivery} (h : x.Silent)
    (hd : d ∈ deliveries exchanges) : Removed (exchanges ++ [x]) d ↔ Removed exchanges d := by
  rw [removed_snoc hd, h.acknowledges]
  simp

theorem Mirrors.silent {service : Service} (hmirrors : Mirrors service) {x : Exchange}
    (hx : x.Silent) {db : RelayDb} (hsequence : db.sequence = service.db.sequence)
    (hmailbox : db.mailbox = service.db.mailbox) :
    Mirrors ⟨db, service.exchanges ++ [x]⟩ := by
  obtain ⟨cleaned, hcleaned, htable⟩ := hmirrors.mailbox
  constructor
  · rw [hsequence, hmirrors.sequence, deliveries_silent hx]
  · refine ⟨cleaned, ?_, ?_⟩
    · intro d hd
      obtain ⟨y, hy, hlt⟩ := hcleaned d hd
      exact ⟨y, List.mem_append_left _ hy, hlt⟩
    · rw [hmailbox, htable, deliveries_silent hx]
      congr 1
      apply List.filter_congr
      intro d hd
      rw [removed_silent hx hd]

theorem Delivery.row_filter {p : Delivery → Bool} (ds : List Delivery) (q : MailboxRow → Bool) :
    ((ds.filter p).map Delivery.row).filter q =
      (ds.filter fun d => p d && q d.row).map Delivery.row := by
  rw [List.filter_map, List.filter_filter]
  congr 1
  apply List.filter_congr
  intro d _
  simp [Bool.and_comm]

/-- SQLite compares the two texts; that compares the times. -/
theorem expired_eq (d : Delivery) (username : String) (later : Datetime) :
    decide (d.row.username = username ∧ d.row.expiresAt < isoformat later.instant) =
      decide (d.username = username ∧ d.expiresAt.instant < later.instant) := by
  rw [decide_eq_decide]
  exact and_congr_right fun _ => isoformat_lt_iff d.expiresAt later

theorem Mirrors.cleanUp {service : Service} (hmirrors : Mirrors service) {x : Exchange}
    (hx : x.Silent) (username : String) :
    Mirrors ⟨cleanedUp service.db username x.arrival.later, service.exchanges ++ [x]⟩ := by
  obtain ⟨cleaned, hcleaned, htable⟩ := hmirrors.mailbox
  constructor
  · rw [deliveries_silent hx]
    exact hmirrors.sequence
  · refine ⟨fun d => cleaned d ||
      decide (d.username = username ∧ d.expiresAt.instant < x.arrival.later.instant), ?_, ?_⟩
    · intro d hd
      rw [Bool.or_eq_true] at hd
      rcases hd with hd | hd
      · obtain ⟨y, hy, hlt⟩ := hcleaned d hd
        exact ⟨y, List.mem_append_left _ hy, hlt⟩
      · exact ⟨x, List.mem_append_right _ (List.mem_singleton_self x), (of_decide_eq_true hd).2⟩
    · rw [deliveries_silent hx]
      show (service.db.mailbox.filter _) = _
      rw [htable, Delivery.row_filter]
      congr 1
      apply List.filter_congr
      intro d hd
      rw [removed_silent hx hd, expired_eq]
      simp only [Bool.not_or, Bool.and_assoc]

theorem Mirrors.delivered {service : Service} (hmirrors : Mirrors service) {x : Exchange}
    {d : Delivery} (hnone : ∀ e, x.acknowledges e = false)
    (hd : x.delivery? (deliveries service.exchanges).length = some d) {db : RelayDb}
    (hsequence : db.sequence = service.db.sequence + 1)
    (hmailbox : db.mailbox = service.db.mailbox ++ [d.row]) :
    Mirrors ⟨db, service.exchanges ++ [x]⟩ := by
  obtain ⟨cleaned, hcleaned, htable⟩ := hmirrors.mailbox
  have hdeliveries : deliveries (service.exchanges ++ [x]) =
      deliveries service.exchanges ++ [d] := by
    rw [deliveries_snoc, hd, Option.toList_some]
  constructor
  · rw [hsequence, hmirrors.sequence, hdeliveries, List.length_append, List.length_singleton]
  · -- only what was there before can have been cleaned up
    refine ⟨fun e => cleaned e && decide (e.messageId ≤ (deliveries service.exchanges).length),
      ?_, ?_⟩
    · intro e he
      rw [Bool.and_eq_true] at he
      obtain ⟨y, hy, hlt⟩ := hcleaned e he.1
      exact ⟨y, List.mem_append_left _ hy, hlt⟩
    · have hnew : ¬d.messageId ≤ (deliveries service.exchanges).length := by
        rw [messageId_of_delivery? hd]
        omega
      rw [hmailbox, htable, hdeliveries, List.filter_append, List.map_append]
      congr 1
      · congr 1
        apply List.filter_congr
        intro e he
        have hremoved : Removed (service.exchanges ++ [x]) e ↔ Removed service.exchanges e := by
          rw [removed_snoc he, hnone]
          simp
        rw [hremoved]
        simp [messageId_le he]
      · rw [List.filter_cons_of_pos (by simp [not_removed_new hd, hnew])]
        rfl

theorem Mirrors.acknowledged {service : Service} (hmirrors : Mirrors service) {x : Exchange}
    (hnone : ∀ count, x.delivery? count = none) {username : String} {messageIds : List Int}
    (hack : ∀ d, x.acknowledges d =
      decide (d.username = username ∧ (d.messageId : Int) ∈ messageIds)) :
    Mirrors
      ⟨{ service.db with
          mailbox := service.db.mailbox.filter fun row =>
            !decide (row.username = username ∧ (row.messageId : Int) ∈ messageIds) },
        service.exchanges ++ [x]⟩ := by
  obtain ⟨cleaned, hcleaned, htable⟩ := hmirrors.mailbox
  have hdeliveries : deliveries (service.exchanges ++ [x]) = deliveries service.exchanges := by
    rw [deliveries_snoc, hnone, Option.toList_none, List.append_nil]
  constructor
  · rw [hdeliveries]
    exact hmirrors.sequence
  · refine ⟨cleaned, ?_, ?_⟩
    · intro d hd
      obtain ⟨y, hy, hlt⟩ := hcleaned d hd
      exact ⟨y, List.mem_append_left _ hy, hlt⟩
    · rw [hdeliveries]
      show (service.db.mailbox.filter _) = _
      rw [htable, Delivery.row_filter]
      congr 1
      apply List.filter_congr
      intro d hd
      show (_ && !decide (d.username = username ∧ (d.messageId : Int) ∈ messageIds)) = _
      by_cases hlisted : d.username = username ∧ (d.messageId : Int) ∈ messageIds
      · have hremoved : Removed (service.exchanges ++ [x]) d :=
          (removed_snoc hd).mpr (.inr ((hack d).trans (decide_eq_true hlisted)))
        simp [hlisted, hremoved]
      · have hremoved : Removed (service.exchanges ++ [x]) d ↔ Removed service.exchanges d := by
          rw [removed_snoc hd, hack, decide_eq_false hlisted]
          simp
        rw [hremoved]
        simp [hlisted]

theorem delivery?_queued {username senderUsername encryptedBlob : String}
    {now later expires : Datetime} (h : now.addDays? 7 = some expires) (count : Nat) :
    Exchange.delivery? ⟨⟨.deliver username senderUsername encryptedBlob, now, later⟩, .queued⟩ count =
      some ⟨count + 1, username, senderUsername, encryptedBlob, now, expires, h⟩ := by
  unfold Exchange.delivery?
  dsimp only
  split
  · next expires' h' =>
      cases h.symm.trans h'
      rfl
  · next h' => cases h.symm.trans h'

theorem silent_of_not_queued {username senderUsername encryptedBlob : String}
    {now later : Datetime} {response : Response} (h : response ≠ .queued) :
    Exchange.Silent ⟨⟨.deliver username senderUsername encryptedBlob, now, later⟩, response⟩ := by
  refine ⟨fun count => ?_, fun _ => rfl⟩
  cases response with
  | queued => exact absurd rfl h
  | _ => rfl

theorem silent_of_not_acknowledged {messageIds : List Int} {headers : InboxHeaders}
    {now later : Datetime} {response : Response} (h : ∀ count, response ≠ .acknowledged count) :
    Exchange.Silent ⟨⟨.acknowledgeInbox messageIds headers, now, later⟩, response⟩ := by
  refine ⟨fun _ => rfl, fun d => ?_⟩
  cases response with
  | acknowledged count => exact absurd rfl (h count)
  | _ => rfl

/-- One request keeps the table in step with the history. -/
theorem Mirrors.step {ext : Externals} {service : Service} (hmirrors : Mirrors service)
    (arrival : Arrival) : Mirrors (step ext service arrival) := by
  obtain ⟨request, now, later⟩ := arrival
  cases request with
  | register body =>
      obtain ⟨hmailbox, hsequence⟩ := registerEndpoint_mailbox service.db body
      exact hmirrors.silent ⟨fun _ => rfl, fun _ => rfl⟩ hsequence hmailbox
  | lookup username => exact hmirrors.silent ⟨fun _ => rfl, fun _ => rfl⟩ rfl rfl
  | deliver username senderUsername encryptedBlob =>
      show Mirrors ⟨(deliverToMailbox service.db now username senderUsername encryptedBlob).2, _ ++
        [⟨_, (deliverToMailbox service.db now username senderUsername encryptedBlob).1⟩]⟩
      rcases deliverToMailbox_cases service.db now username senderUsername encryptedBlob with
        ⟨expires, hexpires, hqueued⟩ | ⟨hrefused, hsame⟩
      · rw [hqueued]
        refine hmirrors.delivered (fun _ => rfl) (delivery?_queued hexpires _) rfl ?_
        rw [hmirrors.sequence]
        rfl
      · rw [hsame]
        exact hmirrors.silent (silent_of_not_queued hrefused) rfl rfl
  | fetchInbox headers =>
      show Mirrors ⟨(fetchInbox ext service.db now later headers).2, _ ++
        [⟨_, (fetchInbox ext service.db now later headers).1⟩]⟩
      cases hauth : authenticateInboxRequest ext service.db now headers none with
      | error response =>
          rw [fetchInbox_error hauth]
          exact hmirrors.silent ⟨fun _ => rfl, fun _ => rfl⟩ rfl rfl
      | ok username =>
          rcases (fetchInbox_ok hauth later).2 with hsame | hcleaned
          · rw [hsame]
            exact hmirrors.silent ⟨fun _ => rfl, fun _ => rfl⟩ rfl rfl
          · rw [hcleaned]
            exact hmirrors.cleanUp
              (x := ⟨⟨.fetchInbox headers, now, later⟩, (fetchInbox ext service.db now later headers).1⟩)
              ⟨fun _ => rfl, fun _ => rfl⟩ username
  | acknowledgeInbox messageIds headers =>
      show Mirrors ⟨(acknowledgeInbox ext service.db now messageIds headers).2, _ ++
        [⟨_, (acknowledgeInbox ext service.db now messageIds headers).1⟩]⟩
      rcases acknowledgeInbox_cases ext service.db now messageIds headers with
        ⟨username, count, hauth, haccepted⟩ | ⟨hrefused, hsame⟩
      · rw [haccepted]
        obtain ⟨signature, timestamp, hheaders, -⟩ := signed_of_acknowledgement hauth
        refine hmirrors.acknowledged (fun _ => rfl) fun d => ?_
        show (headers.xUsername == some d.username && messageIds.contains (d.messageId : Int)) = _
        rw [hheaders, Bool.eq_iff_iff, Bool.and_eq_true, beq_iff_eq, Option.some.injEq,
          List.contains_iff_mem, decide_eq_true_iff, eq_comm]
      · rw [hsame]
        exact hmirrors.silent (silent_of_not_acknowledged hrefused) rfl rfl

theorem mirrors_after (ext : Externals) (arrivals : List Arrival) :
    Mirrors (after ext arrivals) := by
  refine run_invariant (I := Mirrors) (fun _ arrival h => h.step arrival) ?_ arrivals
  refine ⟨rfl, fun _ => false, ?_, rfl⟩
  intro d hd
  cases hd

end Kin.Relay
