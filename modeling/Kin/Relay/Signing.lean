import Kin.Relay.Routes

/-!
The two texts an owner signs. A fetch signs `username:timestamp` and an
acknowledgement signs `username:timestamp:{"message_ids":[...]}`. No text is both:
the first ends where its timestamp does. And the second can be read back: the
ids stand behind its last bracket.
-/

namespace Kin.Relay

open Kin.Lib Kin.Py

/-! ### The texts -/

def fetchMessage (username timestamp : String) : String := username ++ ":" ++ timestamp

/-- The ids of an acknowledgement, as they are written between the brackets. -/
def idsText (messageIds : List Int) : List Char :=
  (",".intercalate (messageIds.map toString)).toList

theorem toList_ackPayload (messageIds : List Int) : (ackPayload messageIds).toList =
    "\x7b\"message_ids\":".toList ++ '[' :: (idsText messageIds ++ [']', '\x7d']) := by
  have hopen : "\x7b\"message_ids\":[".toList = "\x7b\"message_ids\":".toList ++ ['['] := rfl
  have hclose : "]\x7d".toList = [']', '\x7d'] := rfl
  calc (ackPayload messageIds).toList
      = ("\x7b\"message_ids\":[" ++ ",".intercalate (messageIds.map toString) ++
          "]\x7d").toList := rfl
    _ = "\x7b\"message_ids\":[".toList ++ idsText messageIds ++ "]\x7d".toList := by
        rw [String.toList_append, String.toList_append, idsText]
    _ = "\x7b\"message_ids\":".toList ++ ['['] ++ idsText messageIds ++ [']', '\x7d'] :=
        congrArg₂ (fun a b => a ++ idsText messageIds ++ b) hopen hclose
    _ = "\x7b\"message_ids\":".toList ++ '[' :: (idsText messageIds ++ [']', '\x7d']) := by
        rw [List.append_assoc, List.append_assoc, List.singleton_append]

theorem toList_ackMessage (headers : InboxHeaders) (messageIds : List Int) :
    ∃ lead, (ackMessage headers messageIds).toList =
      lead ++ '[' :: (idsText messageIds ++ [']', '\x7d']) := by
  rw [ackMessage, String.toList_append, toList_ackPayload, ← List.append_assoc]
  exact ⟨_, rfl⟩

theorem ackMessage_ne_empty (headers : InboxHeaders) (messageIds : List Int) :
    ackMessage headers messageIds ≠ "" := by
  obtain ⟨lead, hlead⟩ := toList_ackMessage headers messageIds
  intro hempty
  rw [hempty] at hlead
  simp at hlead

/-- A text that a fetch signs, with a timestamp that is read, is signed by no acknowledgement. -/
theorem fetchMessage_ne_ackMessage {username timestamp : String} {parsed : Parsed}
    (h : fromisoformat timestamp = some parsed) (headers : InboxHeaders) (messageIds : List Int) :
    fetchMessage username timestamp ≠ ackMessage headers messageIds := by
  intro heq
  have hne : timestamp.toList ≠ [] := by
    intro hnil
    rw [String.toList_eq_nil_iff] at hnil
    subst hnil
    cases h
  -- one ends as its timestamp does, the other in a brace
  have hlast : (fetchMessage username timestamp).toList.getLast? = timestamp.toList.getLast? := by
    rw [fetchMessage, String.toList_append, List.getLast?_append_of_ne_nil _ hne]
  obtain ⟨lead, hlead⟩ := toList_ackMessage headers messageIds
  rw [heq, hlead] at hlast
  apply unbraced_of_fromisoformat h
  rw [← hlast, List.getLast?_append_of_ne_nil _ (by simp), ← List.cons_append,
    List.getLast?_append_of_ne_nil _ (by simp)]
  rfl

/-! ### The ids -/

/-- An id is written with digits, after a dash when it is negative. -/
theorem toList_toString (n : Int) : (toString n).toList =
    (if 0 ≤ n then [] else ['-']) ++ Nat.toDigits 10 n.natAbs := by
  rw [Int.toString_eq_repr, Int.repr_eq_if]
  split
  · rw [Nat.toList_repr, List.nil_append]
    congr 1
    omega
  · rw [String.toList_append, Nat.toList_repr]
    congr 2
    omega

theorem isDigit_of_mem_toDigits {c : Char} {n : Nat} (h : c ∈ Nat.toDigits 10 n) :
    c.isDigit = true :=
  Nat.isDigit_of_mem_toDigits (by decide) (by decide) h

theorem toDigits_injective {m n : Nat} (h : Nat.toDigits 10 m = Nat.toDigits 10 n) : m = n := by
  rw [← Nat.ofDigitChars_ten_toDigits (n := m), h, Nat.ofDigitChars_ten_toDigits]

theorem isDigit_or_dash_of_mem {n : Int} {c : Char} (h : c ∈ (toString n).toList) :
    c.isDigit = true ∨ c = '-' := by
  rw [toList_toString, List.mem_append] at h
  rcases h with h | h
  · split at h
    · cases h
    · exact .inr (List.mem_singleton.mp h)
  · exact .inl (isDigit_of_mem_toDigits h)

theorem toString_injective {m n : Int} (h : (toString m).toList = (toString n).toList) :
    m = n := by
  have hdash : ∀ k : Nat, '-' ∉ Nat.toDigits 10 k := fun k hmem =>
    absurd (isDigit_of_mem_toDigits hmem) (by decide)
  rw [toList_toString, toList_toString] at h
  by_cases hm : 0 ≤ m <;> by_cases hn : 0 ≤ n
  · rw [if_pos hm, if_pos hn] at h
    have := toDigits_injective h
    omega
  · rw [if_pos hm, if_neg hn, List.nil_append] at h
    exact absurd (h ▸ List.mem_cons_self) (hdash m.natAbs)
  · rw [if_neg hm, if_pos hn, List.nil_append] at h
    exact absurd (h ▸ List.mem_cons_self) (hdash n.natAbs)
  · rw [if_neg hm, if_neg hn] at h
    have := toDigits_injective (List.cons.inj h).2
    omega

theorem idsText_eq (messageIds : List Int) :
    idsText messageIds = [','].intercalate (messageIds.map fun n => (toString n).toList) := by
  simp [idsText, String.toList_intercalate, Function.comp_def]

theorem mem_intercalate {c separator : Char} {parts : List (List Char)}
    (h : c ∈ [separator].intercalate parts) : c = separator ∨ ∃ part ∈ parts, c ∈ part := by
  induction parts with
  | nil => cases h
  | cons part parts ih =>
      obtain _ | ⟨next, parts⟩ := parts
      · rw [List.intercalate_singleton] at h
        exact .inr ⟨part, List.mem_cons_self, h⟩
      · rw [List.intercalate_cons_cons, List.mem_append, List.mem_append] at h
        rcases h with (h | h) | h
        · exact .inr ⟨part, List.mem_cons_self, h⟩
        · exact .inl (List.mem_singleton.mp h)
        · rcases ih h with hsep | ⟨other, hother, hmem⟩
          · exact .inl hsep
          · exact .inr ⟨other, List.mem_cons_of_mem part hother, hmem⟩

theorem bracket_notMem_idsText (messageIds : List Int) :
    '[' ∉ idsText messageIds ++ [']', '\x7d'] := by
  rw [List.mem_append, idsText_eq]
  rintro (hmem | hmem)
  · rcases mem_intercalate hmem with hcomma | ⟨part, hpart, hmem⟩
    · exact absurd hcomma (by decide)
    · obtain ⟨n, -, rfl⟩ := List.mem_map.mp hpart
      rcases isDigit_or_dash_of_mem hmem with hdigit | hdash
      · exact absurd hdigit (by decide)
      · exact absurd hdash (by decide)
  · exact absurd hmem (by decide)

theorem idsText_eq_nil {messageIds : List Int} (h : idsText messageIds = []) : messageIds = [] := by
  obtain _ | ⟨n, ns⟩ := messageIds
  · rfl
  · have hne : (toString n).toList ≠ [] := by
      rw [toList_toString]
      simp [Nat.toDigits_ne_nil]
    rw [idsText_eq, List.map_cons] at h
    obtain _ | ⟨m, ns⟩ := ns
    · rw [List.map_nil, List.intercalate_singleton] at h
      exact absurd h hne
    · rw [List.map_cons, List.intercalate_cons_cons, List.append_assoc,
        List.append_eq_nil_iff] at h
      exact absurd h.1 hne

theorem idsText_injective {messageIds messageIds' : List Int}
    (h : idsText messageIds = idsText messageIds') : messageIds = messageIds' := by
  by_cases hnil : messageIds = []
  · subst hnil
    exact (idsText_eq_nil h.symm).symm
  by_cases hnil' : messageIds' = []
  · subst hnil'
    exact idsText_eq_nil h
  -- no id is written with a comma, so the text splits into the ids again
  have hsplit : ∀ ids : List Int, ids ≠ [] →
      (idsText ids).splitOn ',' = ids.map fun n => (toString n).toList := by
    intro ids hids
    rw [idsText_eq]
    apply List.splitOn_intercalate
    · intro part hpart hcomma
      obtain ⟨n, -, rfl⟩ := List.mem_map.mp hpart
      rcases isDigit_or_dash_of_mem hcomma with hdigit | hdash
      · exact absurd hdigit (by decide)
      · exact absurd hdash (by decide)
    · simpa using hids
  have hmap := (hsplit messageIds hnil).symm.trans ((congrArg _ h).trans (hsplit messageIds' hnil'))
  exact List.map_injective_iff.mpr (fun _ _ => toString_injective) hmap

/-- What follows the last occurrence of an element is determined. -/
theorem tail_eq_of_append_cons_eq {α : Type} {a : α} {front front' tail tail' : List α}
    (h : front ++ a :: tail = front' ++ a :: tail') (htail : a ∉ tail) (htail' : a ∉ tail') :
    tail = tail' := by
  rw [List.append_eq_append_iff] at h
  rcases h with ⟨_ | ⟨b, between⟩, -, h⟩ | ⟨_ | ⟨b, between⟩, -, h⟩
  · exact (List.cons.inj h).2
  · have hmem : a ∈ tail := by
      rw [(List.cons.inj h).2]
      simp
    exact absurd hmem htail
  · exact (List.cons.inj h).2.symm
  · have hmem : a ∈ tail' := by
      rw [(List.cons.inj h).2]
      simp
    exact absurd hmem htail'

/-- The text of an acknowledgement names one list of ids. -/
theorem ackMessage_ids {headers headers' : InboxHeaders} {messageIds messageIds' : List Int}
    (h : ackMessage headers messageIds = ackMessage headers' messageIds') :
    messageIds = messageIds' := by
  obtain ⟨lead, hlead⟩ := toList_ackMessage headers messageIds
  obtain ⟨lead', hlead'⟩ := toList_ackMessage headers' messageIds'
  have heq := hlead.symm.trans ((congrArg String.toList h).trans hlead')
  have htail := tail_eq_of_append_cons_eq heq (bracket_notMem_idsText messageIds)
    (bracket_notMem_idsText messageIds')
  exact idsText_injective (List.append_cancel_right htail)

/-! ### Who passes the check -/

/-- A valid signature of `username` over `message`. -/
def Signed (ext : Externals) (db : RelayDb) (username signature message : String) : Prop :=
  ∃ publicKey, db.publicKey? username = some publicKey ∧
    signatureValid ext publicKey signature message = true

/-- Whoever passes the check sent all three headers, a timestamp that is read, and a
signature under the registered key over the message. -/
theorem authenticateInboxRequest_ok {ext : Externals} {db : RelayDb} {now : Datetime}
    {headers : InboxHeaders} {signedMessage : Option String} {username : String}
    (h : authenticateInboxRequest ext db now headers signedMessage = .ok username) :
    ∃ signature timestamp parsed,
      headers = ⟨some username, some signature, some timestamp⟩ ∧
        fromisoformat timestamp = some parsed ∧
        Signed ext db username signature
          ((signedMessage.filter (· ≠ "")).getD (fetchMessage username timestamp)) := by
  obtain ⟨xUsername, xSignature, xTimestamp⟩ := headers
  unfold authenticateInboxRequest at h
  split at h
  · cases h
  next user husername =>
  split at h
  · cases h
  next signature hsignature =>
  split at h
  · cases h
  next timestamp htimestamp =>
  split at h
  · cases h
  next parsed hparsed =>
  split at h
  · cases h
  split at h
  · cases h
  next publicKey hkey =>
  dsimp only at h
  split at h
  · next hvalid =>
      cases h
      cases husername
      cases hsignature
      cases htimestamp
      exact ⟨signature, timestamp, parsed, rfl, hparsed, publicKey, hkey, hvalid⟩
  · cases h

/-- Whoever does not pass is told so by an HTTP error. -/
theorem authenticateInboxRequest_error {ext : Externals} {db : RelayDb} {now : Datetime}
    {headers : InboxHeaders} {signedMessage : Option String} {response : Response}
    (h : authenticateInboxRequest ext db now headers signedMessage = .error response) :
    ∃ status detail, response = .httpException status detail := by
  unfold authenticateInboxRequest at h
  split at h
  · exact ⟨_, _, (Except.error.inj h).symm⟩
  split at h
  · exact ⟨_, _, (Except.error.inj h).symm⟩
  split at h
  · exact ⟨_, _, (Except.error.inj h).symm⟩
  split at h
  · exact ⟨_, _, (Except.error.inj h).symm⟩
  split at h
  · exact ⟨_, _, (Except.error.inj h).symm⟩
  split at h
  · exact ⟨_, _, (Except.error.inj h).symm⟩
  dsimp only at h
  split at h
  · cases h
  · exact ⟨_, _, (Except.error.inj h).symm⟩

theorem signed_of_fetch {ext : Externals} {db : RelayDb} {now : Datetime}
    {headers : InboxHeaders} {username : String}
    (h : authenticateInboxRequest ext db now headers none = .ok username) :
    ∃ signature timestamp parsed,
      headers = ⟨some username, some signature, some timestamp⟩ ∧
        fromisoformat timestamp = some parsed ∧
        Signed ext db username signature (fetchMessage username timestamp) :=
  authenticateInboxRequest_ok h

theorem signed_of_acknowledgement {ext : Externals} {db : RelayDb} {now : Datetime}
    {headers : InboxHeaders} {messageIds : List Int} {username : String}
    (h : authenticateInboxRequest ext db now headers (some (ackMessage headers messageIds)) =
      .ok username) :
    ∃ signature timestamp, headers = ⟨some username, some signature, some timestamp⟩ ∧
      Signed ext db username signature (ackMessage headers messageIds) := by
  obtain ⟨signature, timestamp, parsed, hheaders, -, hsigned⟩ := authenticateInboxRequest_ok h
  have hmessage : (some (ackMessage headers messageIds)).filter (· ≠ "") =
      some (ackMessage headers messageIds) :=
    Option.filter_eq_some_iff.mpr ⟨rfl, decide_eq_true (ackMessage_ne_empty headers messageIds)⟩
  rw [hmessage] at hsigned
  exact ⟨signature, timestamp, hheaders, hsigned⟩

/-! ### Ideal signatures -/

def Externals.Ideal (ext : Externals) : Prop :=
  ∀ key key' signature message message', ext.verify key signature message = true →
    ext.verify key' signature message' = true → message = message'

theorem verify_of_signatureValid {ext : Externals} {publicKey signature message : String}
    (h : signatureValid ext publicKey signature message = true) :
    ∃ key bytes, fromHex signature = some bytes ∧ ext.verify key bytes message = true := by
  unfold signatureValid at h
  split at h
  · next key bytes _ hbytes => exact ⟨key, bytes, hbytes, h⟩
  · cases h

theorem message_eq_of_signed {ext : Externals} (hideal : ext.Ideal) {db db' : RelayDb}
    {username username' signature signature' message message' : String}
    (h : Signed ext db username signature message)
    (h' : Signed ext db' username' signature' message')
    (hbytes : fromHex signature = fromHex signature') : message = message' := by
  obtain ⟨publicKey, -, hvalid⟩ := h
  obtain ⟨publicKey', -, hvalid'⟩ := h'
  obtain ⟨key, bytes, hsignature, hverify⟩ := verify_of_signatureValid hvalid
  obtain ⟨key', bytes', hsignature', hverify'⟩ := verify_of_signatureValid hvalid'
  rw [hsignature, hsignature', Option.some.injEq] at hbytes
  subst hbytes
  exact hideal key key' bytes message message' hverify hverify'

end Kin.Relay
