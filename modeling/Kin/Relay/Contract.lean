import Kin.Relay.History
import Mathlib.Data.List.Perm.Basic
import Mathlib.Data.List.Sort

/-!
What a mailbox owner may rely on, whatever is sent to the relay and however often:
the key of a username stays, a fetch returns what was delivered and neither expired
nor acknowledged, and a signature for one kind of request is worth nothing for the
other.
-/

namespace Kin.Relay

open Kin.Lib Kin.Py

/-! ### Keys and signatures over a run -/

theorem publicKey?_registerEndpoint {db : RelayDb} {username key : String}
    (body : DirectoryEntry) (h : db.publicKey? username = some key) :
    (registerEndpoint db body).2.publicKey? username = some key := by
  unfold registerEndpoint
  split
  · split
    · exact h
    · -- the update leaves the key column alone
      unfold RelayDb.publicKey? RelayDb.entry? at *
      dsimp only
      by_cases hname : username = body.username
      · subst hname
        rw [Rows.lookup_modify_self, Option.map_map]
        · exact h
        · intro entry
          rfl
      · rw [Rows.lookup_modify_of_ne _ hname]
        · exact h
        · intro entry
          rfl
  · unfold RelayDb.publicKey? RelayDb.entry? at *
    obtain ⟨entry, hentry, hkey⟩ := Option.map_eq_some_iff.mp h
    rw [Rows.lookup_append, hentry, Option.some_or, Option.map_some, hkey]

theorem publicKey?_handle {ext : Externals} {db : RelayDb} {username key : String}
    (arrival : Arrival) (h : db.publicKey? username = some key) :
    (handle ext db arrival).2.publicKey? username = some key := by
  obtain ⟨request, now, later⟩ := arrival
  have hentries : ∀ db' : RelayDb, db'.directoryEntries = db.directoryEntries →
      db'.publicKey? username = some key := by
    intro db' heq
    rw [RelayDb.publicKey?, RelayDb.entry?, heq]
    exact h
  cases request with
  | register body => exact publicKey?_registerEndpoint body h
  | lookup username => exact h
  | deliver username senderUsername encryptedBlob =>
      show (deliverToMailbox db now username senderUsername encryptedBlob).2.publicKey? _ = _
      rcases deliverToMailbox_cases db now username senderUsername encryptedBlob with
        ⟨expires, -, hqueued⟩ | ⟨-, hsame⟩
      · rw [hqueued]
        exact hentries _ rfl
      · rw [hsame]
        exact h
  | fetchInbox headers =>
      show (fetchInbox ext db now later headers).2.publicKey? username = _
      cases hauth : authenticateInboxRequest ext db now headers none with
      | error response =>
          rw [fetchInbox_error hauth]
          exact h
      | ok owner =>
          rcases (fetchInbox_ok hauth later).2 with hsame | hcleaned
          · rw [hsame]
            exact h
          · rw [hcleaned]
            exact hentries _ rfl
  | acknowledgeInbox messageIds headers =>
      show (acknowledgeInbox ext db now messageIds headers).2.publicKey? username = _
      rcases acknowledgeInbox_cases ext db now messageIds headers with
        ⟨owner, count, -, haccepted⟩ | ⟨-, hsame⟩
      · rw [haccepted]
        exact hentries _ rfl
      · rw [hsame]
        exact h

theorem publicKey?_after {ext : Externals} {username key : String} (earlier later : List Arrival)
    (h : (after ext earlier).db.publicKey? username = some key) :
    (after ext (earlier ++ later)).db.publicKey? username = some key := by
  rw [after, run_append]
  exact run_invariant (I := fun service : Service => service.db.publicKey? username = some key)
    (fun service arrival hkey => publicKey?_handle arrival hkey) h later

theorem Signed.after {ext : Externals} {username signature message : String}
    {earlier : List Arrival}
    (h : Signed ext (after ext earlier).db username signature message) (later : List Arrival) :
    Signed ext (after ext (earlier ++ later)).db username signature message := by
  obtain ⟨publicKey, hkey, hvalid⟩ := h
  exact ⟨publicKey, publicKey?_after earlier later hkey, hvalid⟩

/-- Every accepted acknowledgement of a history carries its owner's signature over its ids. -/
theorem signed_of_mem_exchanges {ext : Externals} {arrivals : List Arrival} {x : Exchange}
    (hx : x ∈ (after ext arrivals).exchanges) {messageIds : List Int} {headers : InboxHeaders}
    {count : Nat} (hrequest : x.arrival.request = .acknowledgeInbox messageIds headers)
    (hresponse : x.response = .acknowledged count) :
    ∃ username signature timestamp, headers = ⟨some username, some signature, some timestamp⟩ ∧
      Signed ext (after ext arrivals).db username signature (ackMessage headers messageIds) := by
  induction arrivals using List.reverseRecOn with
  | nil => cases hx
  | append_singleton arrivals arrival ih =>
      rw [after_snoc] at hx
      rcases List.mem_append.mp hx with hold | hnew
      · obtain ⟨username, signature, timestamp, hheaders, hsigned⟩ := ih hold
        exact ⟨username, signature, timestamp, hheaders, hsigned.after [arrival]⟩
      · obtain rfl := List.mem_singleton.mp hnew
        obtain ⟨request, now, later⟩ := arrival
        cases hrequest
        rcases acknowledgeInbox_cases ext (after ext arrivals).db now messageIds headers with
          ⟨username, count', hauth, -⟩ | ⟨hrefused, -⟩
        · obtain ⟨signature, timestamp, hheaders, hsigned⟩ := signed_of_acknowledgement hauth
          exact ⟨username, signature, timestamp, hheaders, hsigned.after _⟩
        · exact absurd hresponse (hrefused count)

/-- Whatever was removed from a mailbox was listed in an acknowledgement that its owner signed. -/
theorem signed_of_removed {ext : Externals} {arrivals : List Arrival} {d : Delivery}
    (h : Removed (after ext arrivals).exchanges d) :
    ∃ x ∈ (after ext arrivals).exchanges, ∃ messageIds signature timestamp,
      x.arrival.request = .acknowledgeInbox messageIds
        ⟨some d.username, some signature, some timestamp⟩ ∧
      (d.messageId : Int) ∈ messageIds ∧
      Signed ext (after ext arrivals).db d.username signature
        (ackMessage ⟨some d.username, some signature, some timestamp⟩ messageIds) := by
  obtain ⟨earlier, x, later, hsplit, -, hack⟩ := h
  have hx : x ∈ (after ext arrivals).exchanges := by
    rw [hsplit]
    simp
  unfold Exchange.acknowledges at hack
  split at hack
  · next messageIds headers count hrequest hresponse =>
      rw [Bool.and_eq_true, beq_iff_eq, List.contains_iff_mem] at hack
      obtain ⟨username, signature, timestamp, rfl, hsigned⟩ :=
        signed_of_mem_exchanges hx hrequest hresponse
      cases hack.1
      exact ⟨x, hx, messageIds, signature, timestamp, hrequest, hack.2, hsigned⟩
  · cases hack

/-! ### The order of deliveries -/

theorem mem_exchanges_after {ext : Externals} {arrivals : List Arrival} {x : Exchange}
    (h : x ∈ (after ext arrivals).exchanges) : x.arrival ∈ arrivals := by
  induction arrivals using List.reverseRecOn with
  | nil => cases h
  | append_singleton arrivals arrival ih =>
      rw [after_snoc] at h
      rcases List.mem_append.mp h with hold | hnew
      · exact List.mem_append_left _ (ih hold)
      · obtain rfl := List.mem_singleton.mp hnew
        exact List.mem_append_right _ (List.mem_singleton_self arrival)

theorem receivedAt_of_delivery? {x : Exchange} {count : Nat} {d : Delivery}
    (h : x.delivery? count = some d) : d.receivedAt = x.arrival.now := by
  unfold Exchange.delivery? at h
  split at h
  · split at h
    · cases h
      rfl
    · cases h
  · cases h

theorem exists_receivedAt {exchanges : List Exchange} {d : Delivery}
    (h : d ∈ deliveries exchanges) : ∃ x ∈ exchanges, d.receivedAt = x.arrival.now := by
  induction exchanges using List.reverseRecOn with
  | nil => cases h
  | append_singleton exchanges x ih =>
      rw [deliveries_snoc, List.mem_append, Option.mem_toList] at h
      rcases h with h | h
      · obtain ⟨y, hy, hat⟩ := ih h
        exact ⟨y, List.mem_append_left _ hy, hat⟩
      · exact ⟨x, List.mem_append_right _ (List.mem_singleton_self x), receivedAt_of_delivery? h⟩

theorem NonDecreasing.snoc {arrivals : List Arrival} {arrival : Arrival}
    (h : NonDecreasing (arrivals ++ [arrival])) :
    NonDecreasing arrivals ∧ ∀ a ∈ arrivals, a.now.instant ≤ arrival.now.instant ∧
      a.later.instant ≤ arrival.later.instant := by
  unfold NonDecreasing at *
  rw [List.flatMap_append, List.pairwise_append] at h
  refine ⟨h.1, fun a ha => ⟨?_, ?_⟩⟩
  · exact h.2.2 _ (List.mem_flatMap.mpr ⟨a, ha, by simp⟩) _ (by simp)
  · exact h.2.2 _ (List.mem_flatMap.mpr ⟨a, ha, by simp⟩) _ (by simp)

/-- With a clock that never goes back, messages are numbered in the order of their times. -/
theorem deliveries_sorted {ext : Externals} {arrivals : List Arrival}
    (h : NonDecreasing arrivals) :
    (deliveries (after ext arrivals).exchanges).Pairwise fun d e =>
      d.receivedAt.instant ≤ e.receivedAt.instant := by
  induction arrivals using List.reverseRecOn with
  | nil => exact .nil
  | append_singleton arrivals arrival ih =>
      rw [after_snoc, step, deliveries_snoc, List.pairwise_append]
      refine ⟨ih h.snoc.1, ?_, ?_⟩
      · cases Exchange.delivery? _ _ with
        | none => exact .nil
        | some d => exact List.pairwise_singleton _ d
      · intro d hd e he
        rw [Option.mem_toList] at he
        obtain ⟨x, hx, hat⟩ := exists_receivedAt hd
        rw [hat, receivedAt_of_delivery? he]
        exact (h.snoc.2 _ (mem_exchanges_after hx)).1

/-! ### The fetch -/

open Classical in
/-- What a fetch has to return: the messages of the user that have neither expired nor
been removed, in the order of their delivery. -/
noncomputable def outstanding (exchanges : List Exchange) (username : String) (later : Datetime) :
    List Delivery :=
  (deliveries exchanges).filter fun d =>
    decide (d.username = username ∧ later.instant ≤ d.expiresAt.instant ∧ ¬Removed exchanges d)

theorem unexpiredRows_eq {ext : Externals} {arrivals : List Arrival} {fetch : Arrival}
    (h : NonDecreasing (arrivals ++ [fetch])) (username : String) :
    unexpiredRows (after ext arrivals).db username fetch.later =
      (outstanding (after ext arrivals).exchanges username fetch.later).map Delivery.row := by
  obtain ⟨cleaned, hcleaned, htable⟩ := (mirrors_after ext arrivals).mailbox
  rw [unexpiredRows, htable, Delivery.row_filter, outstanding]
  congr 1
  apply List.filter_congr
  intro d _
  have hrow : (d.row.username = username ∧ isoformat fetch.later.instant ≤ d.row.expiresAt) ↔
      d.username = username ∧ fetch.later.instant ≤ d.expiresAt.instant :=
    and_congr_right fun _ => isoformat_le_iff fetch.later d.expiresAt
  -- what a clean-up took had expired by now
  have hkept : fetch.later.instant ≤ d.expiresAt.instant → cleaned d = false := by
    intro hle
    rw [Bool.eq_false_iff]
    intro hclean
    obtain ⟨x, hx, hlt⟩ := hcleaned d hclean
    have hbefore := (h.snoc.2 _ (mem_exchanges_after hx)).2
    exact absurd (lt_of_lt_of_le hlt hbefore) (not_lt.mpr hle)
  rw [Bool.eq_iff_iff]
  simp only [Bool.and_eq_true, Bool.not_eq_true', decide_eq_false_iff_not, decide_eq_true_eq, hrow]
  constructor
  · rintro ⟨⟨hremoved, -⟩, hname, hle⟩
    exact ⟨hname, hle, hremoved⟩
  · rintro ⟨hname, hle, hremoved⟩
    exact ⟨⟨hremoved, hkept hle⟩, hname, hle⟩

/-- `ORDER BY received_at ASC` as SQLite documents it: the same rows, none after a later one.
The order of rows with equal times is left open. -/
structure Externals.OrdersByReceipt (ext : Externals) : Prop where
  perm : ∀ rows, (ext.orderByReceivedAt rows).Perm rows
  sorted : ∀ rows, (ext.orderByReceivedAt rows).Pairwise fun a b => a.receivedAt ≤ b.receivedAt

/-- Rows with equal times come in the order of their ids, as a merge sort of the table
returns them. -/
def Externals.KeepsTies (ext : Externals) : Prop :=
  ∀ rows : List MailboxRow, (rows.Pairwise fun a b => a.receivedAt ≤ b.receivedAt) →
    ext.orderByReceivedAt rows = rows

theorem row_sorted_iff (ds : List Delivery) :
    ((ds.map Delivery.row).Pairwise fun a b => a.receivedAt ≤ b.receivedAt) ↔
      ds.Pairwise fun d e => d.receivedAt.instant ≤ e.receivedAt.instant := by
  rw [List.pairwise_map]
  constructor
  · exact List.Pairwise.imp fun hle => (isoformat_le_iff _ _).mp hle
  · exact List.Pairwise.imp fun hle => (isoformat_le_iff _ _).mpr hle

theorem shown_row (ds : List Delivery) :
    (ds.map Delivery.row).map (fun row =>
      (⟨row.messageId, row.senderUsername, row.encryptedBlob⟩ : InboxMessage)) =
      ds.map Delivery.shown := by
  rw [List.map_map]
  rfl

theorem fetch_returns_outstanding {ext : Externals} (horder : ext.OrdersByReceipt)
    {arrivals : List Arrival} {fetch : Arrival} (hclock : NonDecreasing (arrivals ++ [fetch]))
    {headers : InboxHeaders} (hrequest : fetch.request = .fetchInbox headers) {username : String}
    (hauth : authenticateInboxRequest ext (after ext arrivals).db fetch.now headers none =
      .ok username) :
    ∃ messages, (handle ext (after ext arrivals).db fetch).1 = .inbox messages ∧
      (∃ ds : List Delivery, messages = ds.map Delivery.shown ∧
        ds.Perm (outstanding (after ext arrivals).exchanges username fetch.later) ∧
        ds.Pairwise fun d e => d.receivedAt.instant ≤ e.receivedAt.instant) ∧
      (ext.KeepsTies → messages =
        (outstanding (after ext arrivals).exchanges username fetch.later).map Delivery.shown) := by
  obtain ⟨request, now, later⟩ := fetch
  cases hrequest
  have hrows : unexpiredRows (after ext arrivals).db username later =
      (outstanding (after ext arrivals).exchanges username later).map Delivery.row :=
    unexpiredRows_eq hclock username
  refine ⟨_, (fetchInbox_ok hauth later).1, ?_, ?_⟩
  · -- a permutation of rows of deliveries is one of the deliveries
    have hperm := horder.perm (unexpiredRows (after ext arrivals).db username later)
    rw [hrows] at hperm
    obtain ⟨ds, heq, hds⟩ :=
      Eq.mpr (congrFun₂ (List.eq_map_comp_perm Delivery.row) _ _) hperm
    rw [hrows, heq]
    refine ⟨ds, shown_row ds, hds, ?_⟩
    rw [← row_sorted_iff, ← heq, ← hrows]
    exact horder.sorted _
  · intro hties
    have hsorted : ((outstanding (after ext arrivals).exchanges username later).map
        Delivery.row).Pairwise fun a b => a.receivedAt ≤ b.receivedAt := by
      rw [row_sorted_iff]
      exact (deliveries_sorted hclock.snoc.1).filter _
    rw [hrows, hties _ hsorted]
    exact shown_row _

/-- A signature that passes for a fetch passes for no acknowledgement. -/
theorem fetch_signature_separate {ext : Externals} (hideal : ext.Ideal) {db db' : RelayDb}
    {now now' : Datetime} {headers headers' : InboxHeaders} {messageIds : List Int}
    {username username' : String}
    (hfetch : authenticateInboxRequest ext db now headers none = .ok username)
    (hack : authenticateInboxRequest ext db' now' headers'
      (some (ackMessage headers' messageIds)) = .ok username') :
    headers.xSignature.bind fromHex ≠ headers'.xSignature.bind fromHex := by
  obtain ⟨signature, timestamp, parsed, rfl, hparsed, hsigned⟩ := signed_of_fetch hfetch
  obtain ⟨signature', timestamp', rfl, hsigned'⟩ := signed_of_acknowledgement hack
  intro hbytes
  exact fetchMessage_ne_ackMessage hparsed _ _ (message_eq_of_signed hideal hsigned hsigned' hbytes)

/-- A signature that passes for an acknowledgement passes for one list of ids only. -/
theorem ack_signature_ids {ext : Externals} (hideal : ext.Ideal) {db db' : RelayDb}
    {now now' : Datetime} {headers headers' : InboxHeaders} {messageIds messageIds' : List Int}
    {username username' : String}
    (hack : authenticateInboxRequest ext db now headers (some (ackMessage headers messageIds)) =
      .ok username)
    (hack' : authenticateInboxRequest ext db' now' headers'
      (some (ackMessage headers' messageIds')) = .ok username')
    (hbytes : headers.xSignature.bind fromHex = headers'.xSignature.bind fromHex) :
    messageIds = messageIds' := by
  obtain ⟨signature, timestamp, rfl, hsigned⟩ := signed_of_acknowledgement hack
  obtain ⟨signature', timestamp', rfl, hsigned'⟩ := signed_of_acknowledgement hack'
  exact ackMessage_ids (message_eq_of_signed hideal hsigned hsigned' hbytes)

/-- The contract of the mailbox. Keys stay; a fetch returns the outstanding messages of its
user in the order of their delivery; whatever is not outstanding was listed in an
acknowledgement that its owner signed; and no signature passes for both kinds of request
or for two lists of ids. -/
theorem mailbox_contract (ext : Externals) (horder : ext.OrdersByReceipt) (hideal : ext.Ideal) :
    (∀ earlier later username key, (after ext earlier).db.publicKey? username = some key →
      (after ext (earlier ++ later)).db.publicKey? username = some key) ∧
    (∀ arrivals fetch headers username, NonDecreasing (arrivals ++ [fetch]) →
      fetch.request = .fetchInbox headers →
      authenticateInboxRequest ext (after ext arrivals).db fetch.now headers none =
        .ok username →
      ∃ messages, (handle ext (after ext arrivals).db fetch).1 = .inbox messages ∧
        (∃ ds : List Delivery, messages = ds.map Delivery.shown ∧
          ds.Perm (outstanding (after ext arrivals).exchanges username fetch.later) ∧
          ds.Pairwise fun d e => d.receivedAt.instant ≤ e.receivedAt.instant) ∧
        (ext.KeepsTies → messages =
          (outstanding (after ext arrivals).exchanges username fetch.later).map
            Delivery.shown)) ∧
    (∀ arrivals d, Removed (after ext arrivals).exchanges d →
      ∃ x ∈ (after ext arrivals).exchanges, ∃ messageIds signature timestamp,
        x.arrival.request = .acknowledgeInbox messageIds
          ⟨some d.username, some signature, some timestamp⟩ ∧
        (d.messageId : Int) ∈ messageIds ∧
        Signed ext (after ext arrivals).db d.username signature
          (ackMessage ⟨some d.username, some signature, some timestamp⟩ messageIds)) ∧
    (∀ db db' now now' headers headers' messageIds username username',
      authenticateInboxRequest ext db now headers none = .ok username →
      authenticateInboxRequest ext db' now' headers' (some (ackMessage headers' messageIds)) =
        .ok username' →
      headers.xSignature.bind fromHex ≠ headers'.xSignature.bind fromHex) ∧
    (∀ db db' now now' headers headers' messageIds messageIds' username username',
      authenticateInboxRequest ext db now headers (some (ackMessage headers messageIds)) =
        .ok username →
      authenticateInboxRequest ext db' now' headers' (some (ackMessage headers' messageIds')) =
        .ok username' →
      headers.xSignature.bind fromHex = headers'.xSignature.bind fromHex →
      messageIds = messageIds') :=
  ⟨fun earlier later _ _ h => publicKey?_after earlier later h,
    fun _ _ _ _ hclock hrequest hauth => fetch_returns_outstanding horder hclock hrequest hauth,
    fun _ _ h => signed_of_removed h,
    fun _ _ _ _ _ _ _ _ _ hfetch hack => fetch_signature_separate hideal hfetch hack,
    fun _ _ _ _ _ _ _ _ _ _ hack hack' hbytes => ack_signature_ids hideal hack hack' hbytes⟩

/-! ### One message for a registered user -/

def noon : Datetime := ⟨1784721600000000, by decide, by decide⟩

def noonHeaders : InboxHeaders := ⟨some "bob", some "01", some "2026-07-22T12:00:00+00:00"⟩

def oneDelivery : List Arrival :=
  [⟨.register ⟨"bob", "aa", "bb", "http://bob"⟩, noon, noon⟩,
   ⟨.deliver "bob" "alice" "00", noon, noon⟩]

def noonExternals : Externals where
  verify key signature message :=
    decide (key = [0xaa] ∧ signature = [0x01] ∧ message = "bob:2026-07-22T12:00:00+00:00")
  orderByReceivedAt rows := rows.insertionSort fun a b => a.receivedAt ≤ b.receivedAt
  maxVariables := 32766

theorem noonExternals_orders : noonExternals.OrdersByReceipt where
  perm rows := List.perm_insertionSort _ rows
  sorted rows := by
    have htotal : Std.Total fun a b : MailboxRow => a.receivedAt ≤ b.receivedAt :=
      ⟨fun a b => le_total a.receivedAt b.receivedAt⟩
    have htrans : IsTrans MailboxRow fun a b => a.receivedAt ≤ b.receivedAt :=
      ⟨fun _ _ _ => le_trans⟩
    exact List.pairwise_insertionSort _ rows

theorem noonExternals_keepsTies : noonExternals.KeepsTies :=
  fun _ hsorted => hsorted.insertionSort_eq

theorem noonExternals_ideal : noonExternals.Ideal := by
  intro key key' signature message message' h h'
  have hmessage := (of_decide_eq_true h).2.2
  have hmessage' := (of_decide_eq_true h').2.2
  rw [hmessage, hmessage']

theorem one_delivery_fetched :
    authenticateInboxRequest noonExternals (after noonExternals oneDelivery).db noon noonHeaders
      none = .ok "bob" ∧
    ∃ messages, (handle noonExternals (after noonExternals oneDelivery).db
        ⟨.fetchInbox noonHeaders, noon, noon⟩).1 = .inbox messages ∧
      messages =
        (outstanding (after noonExternals oneDelivery).exchanges "bob" noon).map
          Delivery.shown ∧
      messages = [⟨1, "alice", "00"⟩] := by
  have hauth : authenticateInboxRequest noonExternals (after noonExternals oneDelivery).db noon
      noonHeaders none = .ok "bob" := rfl
  have hclock : NonDecreasing (oneDelivery ++ [⟨.fetchInbox noonHeaders, noon, noon⟩]) := by
    simp [NonDecreasing, oneDelivery]
  obtain ⟨messages, hresponse, -, hties⟩ :=
    (mailbox_contract noonExternals noonExternals_orders noonExternals_ideal).2.1 oneDelivery
      ⟨.fetchInbox noonHeaders, noon, noon⟩ noonHeaders "bob" hclock rfl hauth
  have hdelivered : (handle noonExternals (after noonExternals oneDelivery).db
      ⟨.fetchInbox noonHeaders, noon, noon⟩).1 = .inbox [⟨1, "alice", "00"⟩] := rfl
  rw [hresponse] at hdelivered
  exact ⟨hauth, messages, hresponse, hties noonExternals_keepsTies,
    Response.inbox.inj hdelivered⟩

end Kin.Relay
