import Kin.Depth.Reservations
import Kin.Lib.Rows
import Mathlib.Data.List.Forall2

/-!
The Context Pantry of `kin/context_pantry.py`. An item that is a local reference has two
expiry times: its own, and the one the reference was registered with. The pack reads the
second only for an item without the first.
-/

namespace Kin.ContextPantry

open Kin.Py Kin.Lib

def maxContextItemBytes : Nat := 5 * 1024 * 1024

/-- How building a pack fails: `PantryValidationError`, or an exception from below. -/
inductive PantryError
  | pantry (message : String)
  | raised (exc : PyExc)
  deriving DecidableEq

/-- What `getattr` reads of an item; `none` is `None`, or an attribute it lacks. -/
structure PantryItem where
  kind : String := ""
  classification : Option String := none
  expiry : Option String := none
  itemId : Option String := none
  content : Option String := none
  localRefId : Option String := none
  reviewed : Bool := false
  deriving DecidableEq

/-- What is read of a row of `context_pantry_refs`. -/
structure RefRow where
  refId : String
  encryptedPath : String
  expiresAt : Option String
  deriving DecidableEq

/-- A `ReviewedContextItem`. -/
structure ReviewedContextItem where
  schemaVersion : String := "1.1"
  itemId : String
  kind : String
  classification : String := "share_with_peer"
  content : String
  sizeBytes : Nat
  expiresAt : Option String
  deriving DecidableEq

/-- The vault and the file system: `decrypt_field` with the vault key, and the text of the
regular file at a path. `none` is an exception. -/
structure LocalFiles where
  decryptField : String → Option (Option String)
  readText : String → Option String

def truthy (text : Option String) : Option String := text.filter fun s => s ≠ ""

def parseUtc (value : String) : Except PantryError Datetime :=
  match fromisoformat (Depth.replaceZ value) with
  | none => .error (.raised .valueError)
  | some parsed =>
      if parsed.offset.isNone then
        .error (.pantry "Context expiry must include a UTC timezone.")
      else
        match Depth.datetime? parsed.utc with
        | none => .error (.raised .overflowError)
        | some t => .ok t

def itemMessage (index : Nat) (rest : String) : PantryError :=
  .pantry ("Context item " ++ toString (index + 1) ++ rest)

/-- `if expiry and current >= _parse_utc(expiry): raise`. -/
def checkExpiry (current : Instant) (index : Nat) (expiry : Option String) :
    Except PantryError Unit :=
  match truthy expiry with
  | none => .ok ()
  | some value =>
      match parseUtc value with
      | .error e => .error e
      | .ok t =>
          if t.instant ≤ current then
            .error (itemMessage index " expired and cannot be shared.")
          else .ok ()

/-- `expiry or row[1]`. -/
def effectiveExpiry (expiry registered : Option String) : Option String :=
  if (truthy expiry).isSome then expiry else registered

def LocalFiles.read (files : LocalFiles) (row : RefRow) : Option String :=
  match files.decryptField row.encryptedPath with
  | none => none
  | some path => files.readText (path.getD "")

def resolveReference (files : LocalFiles) (refs : List RefRow) (current : Instant) (index : Nat)
    (item : PantryItem) : Except PantryError (Option String × Option String) :=
  match truthy item.localRefId with
  | none => .error (itemMessage index " has no valid local reference.")
  | some refId =>
      match Rows.lookup RefRow.refId refs refId with
      | none => .error (itemMessage index " is unavailable; select it again.")
      | some row =>
          match checkExpiry current index (effectiveExpiry item.expiry row.expiresAt) with
          | .error e => .error e
          | .ok () =>
              match files.read row with
              | none => .error (itemMessage index " could not be read; select it again.")
              | some content =>
                  .ok (some content, effectiveExpiry item.expiry row.expiresAt)

/-- The checks of the content, and the wire projection of the item. -/
def reviewContent (index : Nat) (item : PantryItem) (content expiry : Option String) :
    Except PantryError ReviewedContextItem :=
  match truthy content with
  | none => .error (itemMessage index " has no shareable content.")
  | some text =>
      if maxContextItemBytes < text.utf8ByteSize then
        .error (itemMessage index
          (" exceeds the " ++ toString maxContextItemBytes ++ "-byte size limit."))
      else
        .ok {
          itemId := (truthy item.itemId).getD ("ctx_" ++ toString (index + 1))
          kind := item.kind
          content := text
          sizeBytes := text.utf8ByteSize
          expiresAt := expiry }

def itemContent (files : LocalFiles) (refs : List RefRow) (current : Instant) (index : Nat)
    (item : PantryItem) : Except PantryError (Option String × Option String) :=
  if item.kind = "local_reference" then resolveReference files refs current index item
  else .ok (item.content, item.expiry)

/-- One turn of the loop; `none` is `continue`. -/
def reviewItem (files : LocalFiles) (refs : List RefRow) (current : Instant) (index : Nat)
    (item : PantryItem) : Except PantryError (Option ReviewedContextItem) :=
  if item.classification = some "local_only" ∨ item.classification = some "private" then .ok none
  else if item.classification ≠ some "share_with_peer" then
    .error (itemMessage index " has an invalid classification.")
  else if item.reviewed = false then
    .error (itemMessage index " must be reviewed before it can be shared.")
  else do
    checkExpiry current index item.expiry
    let (content, expiry) ← itemContent files refs current index item
    let entry ← reviewContent index item content expiry
    .ok (some entry)

def reviewItems (files : LocalFiles) (refs : List RefRow) (current : Instant) :
    Nat → List PantryItem → Except PantryError (List ReviewedContextItem)
  | _, [] => .ok []
  | index, item :: items => do
      let entry ← reviewItem files refs current index item
      let pack ← reviewItems files refs current (index + 1) items
      .ok (entry.toList ++ pack)

def buildReviewedContextPack (files : LocalFiles) (refs : List RefRow) (items : List PantryItem)
    (current : Instant) : Except PantryError (List ReviewedContextItem) :=
  reviewItems files refs current 0 items

/-! ### What the checks ask -/

/-- The text is a time at or before the current one. -/
def Past (current : Instant) (expiry : Option String) : Prop :=
  ∃ value, expiry = some value ∧ ∃ t, parseUtc value = .ok t ∧ t.instant ≤ current

/-- No expiry, or a time that is still to come. -/
def Unexpired (current : Instant) (expiry : Option String) : Prop :=
  ∀ value, truthy expiry = some value → ∃ t, parseUtc value = .ok t ∧ current < t.instant

variable {files : LocalFiles} {refs : List RefRow} {current : Instant} {index : Nat}
  {item : PantryItem}

theorem truthy_eq_some {text : Option String} {s : String} :
    truthy text = some s ↔ text = some s ∧ s ≠ "" := by
  simp [truthy, Option.filter_eq_some_iff]

/-- The empty text is no time. -/
theorem not_past_of_falsy {expiry : Option String} (h : truthy expiry = none) :
    ¬Past current expiry := by
  rintro ⟨value, rfl, t, hparse, -⟩
  by_cases hvalue : value = ""
  · subst hvalue
    have hempty : parseUtc "" = .error (.raised .valueError) := by decide +kernel
    rw [hempty] at hparse
    cases hparse
  · rw [truthy_eq_some.mpr ⟨rfl, hvalue⟩] at h
    cases h

theorem Unexpired.not_past {expiry : Option String} (h : Unexpired current expiry) :
    ¬Past current expiry := by
  cases htruthy : truthy expiry with
  | none => exact not_past_of_falsy htruthy
  | some value =>
      obtain ⟨t, hparse, hlt⟩ := h value htruthy
      rintro ⟨value', hvalue', t', hparse', hle⟩
      obtain ⟨rfl, -⟩ := truthy_eq_some.mp htruthy
      cases hvalue'
      rw [hparse] at hparse'
      cases hparse'
      exact absurd hlt (not_lt.mpr hle)

theorem checkExpiry_ok_iff {expiry : Option String} {u : Unit} :
    checkExpiry current index expiry = .ok u ↔ Unexpired current expiry := by
  unfold checkExpiry Unexpired
  cases truthy expiry with
  | none => simp
  | some value =>
      cases hparse : parseUtc value with
      | error e => simp [hparse]
      | ok t =>
          by_cases hle : t.instant ≤ current
          · simp [hparse, hle]
          · simp [hparse, hle, not_le.mp hle]

def registeredRow (refs : List RefRow) (item : PantryItem) : Option RefRow :=
  (truthy item.localRefId).bind (Rows.lookup RefRow.refId refs)

/-- The reference is registered, unexpired by the effective expiry, and can be read. -/
structure Resolves (files : LocalFiles) (refs : List RefRow) (current : Instant)
    (item : PantryItem) (row : RefRow) (content : String) : Prop where
  found : registeredRow refs item = some row
  unexpired : Unexpired current (effectiveExpiry item.expiry row.expiresAt)
  readable : files.read row = some content

theorem resolveReference_ok_iff {result : Option String × Option String} :
    resolveReference files refs current index item = .ok result ↔
      ∃ row content, Resolves files refs current item row content ∧
        result = (some content, effectiveExpiry item.expiry row.expiresAt) := by
  constructor
  · intro h
    unfold resolveReference at h
    split at h
    · cases h
    · rename_i refId hrefId
      split at h
      · cases h
      · rename_i row hrow
        split at h
        · cases h
        · rename_i hcheck
          split at h
          · cases h
          · rename_i content hread
            cases h
            have hfound : registeredRow refs item = some row :=
              Option.bind_eq_some_iff.mpr ⟨refId, hrefId, hrow⟩
            exact ⟨row, content, ⟨hfound, checkExpiry_ok_iff.mp hcheck, hread⟩, rfl⟩
  · rintro ⟨row, content, ⟨hfound, hunexpired, hread⟩, rfl⟩
    obtain ⟨refId, hrefId, hrow⟩ := Option.bind_eq_some_iff.mp hfound
    have hcheck : checkExpiry current index (effectiveExpiry item.expiry row.expiresAt) = .ok () :=
      checkExpiry_ok_iff.mpr hunexpired
    simp only [resolveReference, hrefId, hrow, hcheck, hread]

def Shareable (content : String) : Prop :=
  content ≠ "" ∧ content.utf8ByteSize ≤ maxContextItemBytes

def wireItem (index : Nat) (item : PantryItem) (content : String) (expiry : Option String) :
    ReviewedContextItem where
  itemId := (truthy item.itemId).getD ("ctx_" ++ toString (index + 1))
  kind := item.kind
  content := content
  sizeBytes := content.utf8ByteSize
  expiresAt := expiry

theorem reviewContent_ok_iff {content expiry : Option String} {entry : ReviewedContextItem} :
    reviewContent index item content expiry = .ok entry ↔
      ∃ text, content = some text ∧ Shareable text ∧ entry = wireItem index item text expiry := by
  constructor
  · intro h
    unfold reviewContent at h
    split at h
    · cases h
    · rename_i text htext
      split at h
      · cases h
      · rename_i hsize
        cases h
        obtain ⟨hcontent, hne⟩ := truthy_eq_some.mp htext
        exact ⟨text, hcontent, ⟨hne, not_lt.mp hsize⟩, rfl⟩
  · rintro ⟨text, rfl, ⟨hne, hsize⟩, rfl⟩
    have htext : truthy (some text) = some text := truthy_eq_some.mpr ⟨rfl, hne⟩
    simp only [reviewContent, htext, if_neg (not_lt.mpr hsize), wireItem]

/-- The content an item stands for, and the expiry it is sent with: those of the item, or
for a local reference the text of its file and the effective expiry. -/
def Stands (files : LocalFiles) (refs : List RefRow) (current : Instant) (item : PantryItem)
    (content expiry : Option String) : Prop :=
  if item.kind = "local_reference" then
    ∃ row text, Resolves files refs current item row text ∧ content = some text ∧
      expiry = effectiveExpiry item.expiry row.expiresAt
  else content = item.content ∧ expiry = item.expiry

theorem itemContent_ok_iff {content expiry : Option String} :
    itemContent files refs current index item = .ok (content, expiry) ↔
      Stands files refs current item content expiry := by
  unfold itemContent Stands
  split
  · simp [resolveReference_ok_iff]
  · simp [eq_comm]

structure Reviewed (files : LocalFiles) (refs : List RefRow) (current : Instant)
    (item : PantryItem) (content : String) (expiry : Option String) : Prop where
  reviewed : item.reviewed = true
  unexpired : Unexpired current item.expiry
  stands : Stands files refs current item (some content) expiry
  shareable : Shareable content

def Withheld (item : PantryItem) : Prop :=
  item.classification = some "local_only" ∨ item.classification = some "private"

def Shared (item : PantryItem) : Prop := item.classification = some "share_with_peer"

instance (item : PantryItem) : Decidable (Withheld item) := inferInstanceAs (Decidable (_ ∨ _))

instance (item : PantryItem) : Decidable (Shared item) := inferInstanceAs (Decidable (_ = _))

theorem Withheld.not_shared (h : Withheld item) : ¬Shared item := by
  intro hshared
  rw [Withheld, hshared] at h
  revert h
  decide

theorem reviewItem_of_withheld (h : Withheld item) :
    reviewItem files refs current index item = .ok none := if_pos h

theorem reviewItem_of_shared (hshared : Shared item) {content : String} {expiry : Option String}
    (h : Reviewed files refs current item content expiry) :
    reviewItem files refs current index item = .ok (some (wireItem index item content expiry)) := by
  have hclass : item.classification = some "share_with_peer" := hshared
  have hwithheld : ¬(item.classification = some "local_only" ∨
      item.classification = some "private") := fun hw => Withheld.not_shared hw hshared
  have hcheck : checkExpiry current index item.expiry = .ok () :=
    checkExpiry_ok_iff.mpr h.unexpired
  have hcontent : itemContent files refs current index item = .ok (content, expiry) :=
    itemContent_ok_iff.mpr h.stands
  have hentry : reviewContent index item (some content) expiry =
      .ok (wireItem index item content expiry) :=
    reviewContent_ok_iff.mpr ⟨content, rfl, h.shareable, rfl⟩
  unfold reviewItem
  rw [if_neg hwithheld, if_neg (not_not.mpr hclass), if_neg (by simp [h.reviewed]), hcheck]
  simp only [bind, Except.bind, hcontent, hentry]

/-- Every item that the loop lets through. -/
theorem reviewItem_ok {entry : Option ReviewedContextItem}
    (h : reviewItem files refs current index item = .ok entry) :
    (Withheld item ∧ entry = none) ∨ (Shared item ∧ ∃ content expiry,
      Reviewed files refs current item content expiry ∧
        entry = some (wireItem index item content expiry)) := by
  unfold reviewItem at h
  split at h
  · rename_i hwithheld
    cases h
    exact .inl ⟨hwithheld, rfl⟩
  · split at h
    · cases h
    · rename_i hshared
      split at h
      · cases h
      · rename_i hreviewed
        cases hcheck : checkExpiry current index item.expiry with
        | error e => simp [hcheck, bind, Except.bind] at h
        | ok u =>
            cases hcontent : itemContent files refs current index item with
            | error e => simp [hcheck, hcontent, bind, Except.bind] at h
            | ok p =>
                obtain ⟨content, expiry⟩ := p
                cases hentry : reviewContent index item content expiry with
                | error e => simp [hcheck, hcontent, hentry, bind, Except.bind] at h
                | ok entry' =>
                    obtain ⟨text, rfl, hshareable, rfl⟩ := reviewContent_ok_iff.mp hentry
                    simp only [hcheck, hcontent, hentry, bind, Except.bind] at h
                    cases h
                    exact .inr ⟨not_not.mp hshared, text, expiry,
                      ⟨by simpa using hreviewed, checkExpiry_ok_iff.mp hcheck,
                        itemContent_ok_iff.mp hcontent, hshareable⟩, rfl⟩

def Passes (files : LocalFiles) (refs : List RefRow) (current : Instant) (item : PantryItem) :
    Prop :=
  Withheld item ∨
    (Shared item ∧ ∃ content expiry, Reviewed files refs current item content expiry)

/-! ### The pack -/

def sharedFrom (index : Nat) (items : List PantryItem) : List (PantryItem × Nat) :=
  (items.zipIdx index).filter fun p => Shared p.1

theorem sharedFrom_cons_shared (h : Shared item) (index : Nat) (items : List PantryItem) :
    sharedFrom index (item :: items) = (item, index) :: sharedFrom (index + 1) items := by
  simp [sharedFrom, List.zipIdx_cons, h]

theorem sharedFrom_cons_of_not (h : ¬Shared item) (index : Nat) (items : List PantryItem) :
    sharedFrom index (item :: items) = sharedFrom (index + 1) items := by
  simp [sharedFrom, List.zipIdx_cons, h]

theorem mem_sharedFrom {items : List PantryItem} {p : PantryItem × Nat}
    (h : p ∈ sharedFrom index items) : p.1 ∈ items ∧ Shared p.1 := by
  simp only [sharedFrom, List.mem_filter, decide_eq_true_eq] at h
  exact ⟨List.fst_mem_of_mem_zipIdx h.1, h.2⟩

theorem exists_mem_sharedFrom {items : List PantryItem} (hitem : item ∈ items)
    (hshared : Shared item) (index : Nat) : ∃ p ∈ sharedFrom index items, p.1 = item := by
  induction items generalizing index with
  | nil => cases hitem
  | cons first items ih =>
      rcases List.mem_cons.mp hitem with rfl | hitem
      · exact ⟨(item, index), by simp [sharedFrom_cons_shared hshared], rfl⟩
      · obtain ⟨p, hp, rfl⟩ := ih hitem (index + 1)
        refine ⟨p, ?_, rfl⟩
        by_cases hfirst : Shared first
        · rw [sharedFrom_cons_shared hfirst]
          exact List.mem_cons_of_mem _ hp
        · rwa [sharedFrom_cons_of_not hfirst]

/-- The entry that the loop makes of an item at an index. -/
def EntryOf (files : LocalFiles) (refs : List RefRow) (current : Instant) (p : PantryItem × Nat)
    (entry : ReviewedContextItem) : Prop :=
  ∃ content expiry, Reviewed files refs current p.1 content expiry ∧
    entry = wireItem p.2 p.1 content expiry

/-- A pack is returned only when every item passes, and holds one entry for each item
that is to be shared, in their order. -/
theorem reviewItems_ok {items : List PantryItem} {pack : List ReviewedContextItem}
    (h : reviewItems files refs current index items = .ok pack) :
    (∀ item ∈ items, Passes files refs current item) ∧
      List.Forall₂ (EntryOf files refs current) (sharedFrom index items) pack := by
  induction items generalizing index pack with
  | nil =>
      cases h
      exact ⟨by simp, .nil⟩
  | cons item items ih =>
      cases hentry : reviewItem files refs current index item with
      | error e => simp [reviewItems, hentry, bind, Except.bind] at h
      | ok entry =>
          cases hrest : reviewItems files refs current (index + 1) items with
          | error e => simp [reviewItems, hentry, hrest, bind, Except.bind] at h
          | ok rest =>
              simp only [reviewItems, hentry, hrest, bind, Except.bind] at h
              cases h
              obtain ⟨hpasses, hentries⟩ := ih hrest
              rcases reviewItem_ok hentry with
                ⟨hwithheld, rfl⟩ | ⟨hshared, content, expiry, hreviewed, rfl⟩
              · rw [sharedFrom_cons_of_not hwithheld.not_shared]
                exact ⟨List.forall_mem_cons.mpr ⟨.inl hwithheld, hpasses⟩, hentries⟩
              · rw [sharedFrom_cons_shared hshared]
                exact ⟨List.forall_mem_cons.mpr
                    ⟨.inr ⟨hshared, content, expiry, hreviewed⟩, hpasses⟩,
                  .cons ⟨content, expiry, hreviewed, rfl⟩ hentries⟩

theorem exists_reviewItems {items : List PantryItem}
    (h : ∀ item ∈ items, Passes files refs current item) (index : Nat) :
    ∃ pack, reviewItems files refs current index items = .ok pack := by
  induction items generalizing index with
  | nil => exact ⟨[], rfl⟩
  | cons item items ih =>
      obtain ⟨hitem, hitems⟩ := List.forall_mem_cons.mp h
      obtain ⟨rest, hrest⟩ := ih hitems (index + 1)
      obtain ⟨entry, hentry⟩ : ∃ entry, reviewItem files refs current index item = .ok entry := by
        rcases hitem with hwithheld | ⟨hshared, content, expiry, hreviewed⟩
        · exact ⟨none, reviewItem_of_withheld hwithheld⟩
        · exact ⟨_, reviewItem_of_shared hshared hreviewed⟩
      exact ⟨entry.toList ++ rest, by simp only [reviewItems, hentry, hrest, bind, Except.bind]⟩

/-- One item that does not pass fails the whole pack. -/
theorem build_ok_iff {items : List PantryItem} :
    (∃ pack, buildReviewedContextPack files refs items current = .ok pack) ↔
      ∀ item ∈ items, Passes files refs current item := by
  constructor
  · rintro ⟨pack, h⟩
    exact (reviewItems_ok h).1
  · exact fun h => exists_reviewItems h 0

def contentOf (files : LocalFiles) (refs : List RefRow) (item : PantryItem) : Option String :=
  if item.kind = "local_reference" then (registeredRow refs item).bind files.read
  else item.content

/-- The expiry that an item's reference was registered with has not passed. -/
def RegisteredUnexpired (refs : List RefRow) (current : Instant) (item : PantryItem) : Prop :=
  item.kind = "local_reference" → ∀ row ∈ registeredRow refs item, ¬Past current row.expiresAt

structure MayLeave (files : LocalFiles) (refs : List RefRow) (current : Instant)
    (p : PantryItem × Nat) (entry : ReviewedContextItem) : Prop where
  reviewed : p.1.reviewed = true
  unexpired : ¬Past current p.1.expiry
  registered : RegisteredUnexpired refs current p.1
  content : contentOf files refs p.1 = some entry.content
  shareable : Shareable entry.content
  entry_eq : entry = wireItem p.2 p.1 entry.content entry.expiresAt

/-- Only reviewed, unexpired and shareable context is in the pack: the items are
classified, and the entries are those of the items to be shared, one for each, in order. -/
structure OnlyShareable (files : LocalFiles) (refs : List RefRow) (current : Instant)
    (items : List PantryItem) (pack : List ReviewedContextItem) : Prop where
  classified : ∀ item ∈ items, Withheld item ∨ Shared item
  entries : List.Forall₂ (MayLeave files refs current) (sharedFrom 0 items) pack

theorem Stands.contentOf_eq {content : String} {expiry : Option String}
    (h : Stands files refs current item (some content) expiry) :
    contentOf files refs item = some content := by
  unfold Stands at h
  unfold contentOf
  split at h
  · rename_i hkind
    obtain ⟨row, text, hresolves, hcontent, -⟩ := h
    cases hcontent
    rw [if_pos hkind, hresolves.found]
    exact hresolves.readable
  · rename_i hkind
    rw [if_neg hkind, h.1]

/-- Without an expiry of its own an item is held to the one its reference has. -/
theorem Stands.registeredUnexpired {content : String} {expiry : Option String}
    (h : Stands files refs current item (some content) expiry) (hown : truthy item.expiry = none) :
    RegisteredUnexpired refs current item := by
  intro hkind row hrow
  rw [Stands, if_pos hkind] at h
  obtain ⟨row', text, hresolves, -, -⟩ := h
  have hfound := hresolves.found
  rw [hrow] at hfound
  cases hfound
  have hunexpired := hresolves.unexpired
  rw [effectiveExpiry, hown] at hunexpired
  exact hunexpired.not_past

theorem EntryOf.mayLeave_iff {p : PantryItem × Nat} {entry : ReviewedContextItem}
    (h : EntryOf files refs current p entry) :
    MayLeave files refs current p entry ↔ RegisteredUnexpired refs current p.1 := by
  obtain ⟨content, expiry, hreviewed, rfl⟩ := h
  exact ⟨MayLeave.registered, fun hregistered =>
    { reviewed := hreviewed.reviewed
      unexpired := hreviewed.unexpired.not_past
      registered := hregistered
      content := hreviewed.stands.contentOf_eq
      shareable := hreviewed.shareable
      entry_eq := rfl }⟩

/-- No local reference that is to be shared has an expiry of its own that stands in for a
registered one that has passed. -/
def NoneOverridden (refs : List RefRow) (current : Instant) (items : List PantryItem) : Prop :=
  ∀ item ∈ items, Shared item → (truthy item.expiry).isSome → RegisteredUnexpired refs current item

theorem onlyShareable_iff {items : List PantryItem} {pack : List ReviewedContextItem}
    (h : buildReviewedContextPack files refs items current = .ok pack) :
    OnlyShareable files refs current items pack ↔ NoneOverridden refs current items := by
  obtain ⟨hpasses, hentries⟩ := reviewItems_ok h
  constructor
  · intro hgood item hitem hshared _
    obtain ⟨p, hp, rfl⟩ := exists_mem_sharedFrom hitem hshared 0
    have hregistered := hgood.entries.imp fun p entry hleaves =>
      (⟨hleaves.registered, trivial⟩ : RegisteredUnexpired refs current p.1 ∧ True)
    exact ((List.forall₂_and_left _ _).mp hregistered).1 p hp
  · intro hnone
    have hclassified : ∀ item ∈ items, Withheld item ∨ Shared item := fun item hitem =>
      (hpasses item hitem).imp_right And.left
    have hregistered : ∀ p ∈ sharedFrom 0 items, RegisteredUnexpired refs current p.1 := by
      intro p hp
      obtain ⟨hitem, hshared⟩ := mem_sharedFrom hp
      cases hown : truthy p.1.expiry with
      | some value => exact hnone p.1 hitem hshared (by simp [hown])
      | none =>
          rcases hpasses p.1 hitem with hwithheld | ⟨-, content, expiry, hreviewed⟩
          · exact absurd hshared hwithheld.not_shared
          · exact hreviewed.stands.registeredUnexpired hown
    refine ⟨hclassified, ?_⟩
    exact ((List.forall₂_and_left _ _).mpr ⟨hregistered, hentries⟩).imp fun p entry hp =>
      hp.2.mayLeave_iff.mpr hp.1

/-- Whatever is asked of the pantry, only shareable context is in the pack exactly when,
all items passing, no registered expiry that has passed is overridden. -/
theorem only_shareable_iff_none_overridden (files : LocalFiles) (refs : List RefRow)
    (items : List PantryItem) (current : Instant) :
    (∀ pack, buildReviewedContextPack files refs items current = .ok pack →
        OnlyShareable files refs current items pack) ↔
      ((∀ item ∈ items, Passes files refs current item) → NoneOverridden refs current items) := by
  constructor
  · intro h hpasses
    obtain ⟨pack, hpack⟩ := build_ok_iff.mpr hpasses
    exact (onlyShareable_iff hpack).mp (h pack hpack)
  · intro h pack hpack
    exact (onlyShareable_iff hpack).mpr (h (build_ok_iff.mp ⟨pack, hpack⟩))

def expiredRef : RefRow := ⟨"ctxref_1", "sealed", some "2026-08-01T00:00:00Z"⟩

/-- The item that refers to it, itself good until the seventh. -/
def laterItem : PantryItem where
  kind := "local_reference"
  classification := some "share_with_peer"
  expiry := some "2026-08-07T12:00:00Z"
  itemId := some "ctx_selected"
  localRefId := some "ctxref_1"
  reviewed := true

def oneFile : LocalFiles where
  decryptField token := if token = "sealed" then some (some "/home/ana/notes.txt") else none
  readText path := if path = "/home/ana/notes.txt" then some "team notes" else none

def fifthNoon : Instant := 1785931200000000

/-- The text of the expired reference is in the pack. -/
theorem expired_reference_leaves :
    ¬∀ pack, buildReviewedContextPack oneFile [expiredRef] [laterItem] fifthNoon = .ok pack →
      OnlyShareable oneFile [expiredRef] fifthNoon [laterItem] pack := by
  intro h
  have hpack : buildReviewedContextPack oneFile [expiredRef] [laterItem] fifthNoon =
      .ok [wireItem 0 laterItem "team notes" laterItem.expiry] := by
    decide +kernel
  have hnone := (onlyShareable_iff hpack).mp (h _ hpack)
  have hregistered := hnone laterItem List.mem_cons_self rfl rfl rfl expiredRef rfl
  refine hregistered ⟨_, rfl, ⟨1785542400000000, by decide, by decide⟩, ?_, by decide⟩
  decide +kernel

end Kin.ContextPantry
