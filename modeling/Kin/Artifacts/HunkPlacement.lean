import Kin.Artifacts.UnifiedDiff
import Mathlib.Data.List.Chain

/-!
Where `apply_unified_patch` applies the hunks of a patch. The number of the first old line of a
header only moves a cursor forward, and the other numbers of a header are not read at all: the
lines that a hunk expects are looked for where the cursor has come to.
-/

namespace Kin.Artifacts

open Kin.Py Kin.Session

/-! ### What headers declare -/

/-- The groups of `hunk_header_re`: `o_start`, `o_len`, `n_start` and `n_len`. -/
structure HeaderGroups where
  oStart : List Char
  oLen : Option (List Char)
  nStart : List Char
  nLen : Option (List Char)

/-- `(?:,(?P<len>\d+))?`: the group and what follows it. -/
def readLengthGroup : List Char → Option (List Char) × List Char
  | ',' :: text =>
      match readDigits text with
      | some (digits, rest) => (some digits, rest)
      | none => (none, ',' :: text)
  | text => (none, text)

/-- `hunk_header_re.match` with all its groups. -/
def headerGroups (line : Line) : Option HeaderGroups := do
  let text ← readChar '@' line
  let text ← readChar '@' text
  let text ← readSpaces text
  let text ← readChar '-' text
  let (oStart, text) ← readDigits text
  let (oLen, text) := readLengthGroup text
  let text ← readSpaces text
  let text ← readChar '+' text
  let (nStart, text) ← readDigits text
  let (nLen, text) := readLengthGroup text
  let text ← readSpaces text
  let text ← readChar '@' text
  let _ ← readChar '@' text
  some ⟨oStart, oLen, nStart, nLen⟩

def digitsValue (digits : List Char) : Nat := digits.foldl (fun n c => 10 * n + digitValue c) 0

/-- A range without a length has one line. -/
def declaredLength : Option (List Char) → Nat
  | some digits => digitsValue digits
  | none => 1

/-- The content of a line of a hunk that is a line of the original. -/
def oldLine : Line → Option Line
  | ' ' :: content | '-' :: content => some content
  | _ => none

def newLine : Line → Option Line
  | ' ' :: content | '+' :: content => some content
  | _ => none

structure DeclaredHunk where
  header : HeaderGroups
  lines : List Line

namespace DeclaredHunk

def start (h : DeclaredHunk) : Nat := digitsValue h.header.oStart

def old (h : DeclaredHunk) : List Line := h.lines.filterMap oldLine

def new (h : DeclaredHunk) : List Line := h.lines.filterMap newLine

/-- How many lines of the original are before the hunk: a hunk without old lines is named by
the line it comes after. -/
def position (h : DeclaredHunk) : Nat := if h.old = [] then h.start else h.start - 1

def hunk (h : DeclaredHunk) : Hunk := ⟨h.header.oStart, h.lines⟩

end DeclaredHunk

/-- The loop over the lines of a patch, with the whole header in `hunk_match`. -/
structure DeclaredScan where
  hunks : List DeclaredHunk := []
  header : Option HeaderGroups := none
  current : List Line := []

def DeclaredScan.close (scan : DeclaredScan) : DeclaredScan :=
  match scan.header with
  | some groups =>
      if scan.current.isEmpty then scan
      else { scan with hunks := scan.hunks ++ [⟨groups, scan.current⟩], current := [] }
  | none => scan

def DeclaredScan.read (scan : DeclaredScan) (line : Line) : DeclaredScan :=
  match headerGroups line with
  | some groups => { scan.close with header := some groups }
  | none =>
      if scan.header.isSome && isHunkLine line then
        { scan with current := scan.current ++ [line] }
      else scan

def declaredHunks (patch : String) : List DeclaredHunk :=
  ((splitLines patch).foldl DeclaredScan.read {}).close.hunks

theorem readLengthGroup_snd (text : List Char) : (readLengthGroup text).2 = readLength text := by
  unfold readLengthGroup
  split
  · rename_i rest
    rw [readLength]
    cases readDigits rest <;> rfl
  · rename_i hcomma
    rw [readLength.eq_2 _ hcomma]

/-- The two readings of a header differ in what they keep of it. -/
theorem hunkHeader_eq_map (line : Line) : hunkHeader line = (headerGroups line).map (·.oStart) := by
  simp only [hunkHeader, headerGroups, ← readLengthGroup_snd, Option.bind_eq_bind,
    Option.map_bind, Function.comp_def, Option.map_some]

def DeclaredScan.scan (scan : DeclaredScan) : HunkScan :=
  ⟨scan.hunks.map DeclaredHunk.hunk, scan.header.map (·.oStart), scan.current⟩

theorem DeclaredScan.scan_close (scan : DeclaredScan) : scan.close.scan = scan.scan.close := by
  obtain ⟨hunks, header, current⟩ := scan
  cases header with
  | none => rfl
  | some groups =>
      cases current with
      | nil => rfl
      | cons line current => simp [DeclaredScan.close, DeclaredScan.scan, HunkScan.close,
          DeclaredHunk.hunk]

theorem DeclaredScan.scan_read (scan : DeclaredScan) (line : Line) :
    (scan.read line).scan = scan.scan.read line := by
  rw [DeclaredScan.read, HunkScan.read, hunkHeader_eq_map]
  cases headerGroups line with
  | none =>
      show (if _ then _ else _ : DeclaredScan).scan = if _ then _ else _
      have hheader : scan.scan.header.isSome = scan.header.isSome := Option.isSome_map
      rw [hheader]
      split <;> rfl
  | some groups =>
      rw [Option.map_some]
      dsimp only
      rw [← DeclaredScan.scan_close]
      rfl

/-- The hunks that are applied are the parsed hunks. -/
theorem hunksOf_eq_map (patch : String) :
    hunksOf (splitLines patch) = (declaredHunks patch).map DeclaredHunk.hunk := by
  have hscan : ∀ (lines : List Line) (scan : DeclaredScan),
      (lines.foldl DeclaredScan.read scan).scan = lines.foldl HunkScan.read scan.scan := by
    intro lines
    induction lines with
    | nil => exact fun _ => rfl
    | cons line lines ih =>
        intro scan
        rw [List.foldl_cons, List.foldl_cons, ih, DeclaredScan.scan_read]
  have hstart : ({} : HunkScan) = DeclaredScan.scan {} := rfl
  rw [hunksOf, hstart, ← hscan, ← DeclaredScan.scan_close]
  rfl

/-! ### The lines of a hunk -/

theorem expect_cons (what : String) (out rest : List Line) (index : Nat) (line : Line) :
    Cursor.expect ⟨out, index, line :: rest⟩ what line = .ok ⟨out, index + 1, rest⟩ := by
  rw [Cursor.expect]
  exact if_pos rfl

theorem expect_error {rest : List Line} {line : Line} (h : ¬[line] <+: rest) (what : String)
    (out : List Line) (index : Nat) :
    ∃ message, Cursor.expect ⟨out, index, rest⟩ what line =
      .error (.invalidPatchArtifact message) := by
  cases rest with
  | nil => exact ⟨_, rfl⟩
  | cons other rest =>
      have hother : other ≠ line := by
        rintro rfl
        exact h ⟨rest, rfl⟩
      exact ⟨_, if_neg hother⟩

theorem apply_context (cursor : Cursor) (content : Line) :
    cursor.apply (' ' :: content) = (cursor.expect "context" content).map (·.push content) := rfl

theorem apply_deletion (cursor : Cursor) (content : Line) :
    cursor.apply ('-' :: content) = cursor.expect "deletion" content := rfl

theorem apply_addition (cursor : Cursor) (content : Line) :
    cursor.apply ('+' :: content) = .ok (cursor.push content) := rfl

theorem apply_other {line : Line} (hold : oldLine line = none) (hnew : newLine line = none)
    (cursor : Cursor) : cursor.apply line = .ok cursor := by
  unfold Cursor.apply
  split
  · rfl
  split
  · cases hold
  · cases hold
  · cases hnew
  · rfl

/-- A line of a hunk is kept, deleted or added, or says nothing. -/
theorem hunkLine_cases (line : Line) :
    (∃ content, line = ' ' :: content) ∨ (∃ content, line = '-' :: content) ∨
      (∃ content, line = '+' :: content) ∨ (oldLine line = none ∧ newLine line = none) := by
  unfold oldLine newLine
  split
  · exact .inl ⟨_, rfl⟩
  · exact .inr (.inl ⟨_, rfl⟩)
  · split
    · rename_i hspace _
      exact absurd rfl (hspace _)
    · exact .inr (.inr (.inl ⟨_, rfl⟩))
    · exact .inr (.inr (.inr ⟨rfl, rfl⟩))

/-- Where the old lines of a hunk are the next ones, the walk goes past them and puts out the
new ones. -/
theorem foldlM_apply_oldLines {lines rest : List Line} (h : lines.filterMap oldLine <+: rest)
    (out : List Line) (index : Nat) :
    lines.foldlM Cursor.apply ⟨out, index, rest⟩ = .ok ⟨out ++ lines.filterMap newLine,
      index + (lines.filterMap oldLine).length,
      rest.drop (lines.filterMap oldLine).length⟩ := by
  induction lines generalizing out index rest with
  | nil => simp [pure, Except.pure]
  | cons line lines ih =>
      rw [List.foldlM_cons]
      rcases hunkLine_cases line with ⟨content, rfl⟩ | ⟨content, rfl⟩ | ⟨content, rfl⟩ | ⟨hold, hnew⟩
      · obtain ⟨tail, rfl⟩ : ∃ tail, rest = content :: tail := by
          obtain ⟨tail, htail⟩ := h
          exact ⟨_, htail.symm⟩
        rw [apply_context, expect_cons]
        refine (ih (List.cons_prefix_cons.mp h).2 (out ++ [content]) (index + 1)).trans ?_
        simp [oldLine, newLine, Nat.add_assoc, Nat.add_comm 1]
      · obtain ⟨tail, rfl⟩ : ∃ tail, rest = content :: tail := by
          obtain ⟨tail, htail⟩ := h
          exact ⟨_, htail.symm⟩
        rw [apply_deletion, expect_cons]
        refine (ih (List.cons_prefix_cons.mp h).2 out (index + 1)).trans ?_
        simp [oldLine, newLine, Nat.add_assoc, Nat.add_comm 1]
      · rw [apply_addition]
        refine (ih h (out ++ [content]) index).trans ?_
        simp [oldLine, newLine]
      · rw [apply_other hold hnew]
        rw [List.filterMap_cons_none hold] at h
        refine (ih h out index).trans ?_
        rw [List.filterMap_cons_none hold, List.filterMap_cons_none hnew]

theorem expect_bind_of_not_prefix {content : Line} {tail rest : List Line}
    (h : ¬content :: tail <+: rest) (what : String) (out : List Line) (index : Nat)
    (next : Cursor → Except WorkspaceError Cursor)
    (hnext : ∀ rest, ¬tail <+: rest → ∃ message,
      next ⟨out, index + 1, rest⟩ = .error (.invalidPatchArtifact message)) :
    ∃ message, (Cursor.expect ⟨out, index, rest⟩ what content).bind next =
      .error (.invalidPatchArtifact message) := by
  by_cases hcontent : [content] <+: rest
  · obtain ⟨rest, rfl⟩ := hcontent
    rw [List.singleton_append] at h ⊢
    rw [expect_cons]
    exact hnext rest fun htail => h (List.cons_prefix_cons.mpr ⟨rfl, htail⟩)
  · obtain ⟨message, hmessage⟩ := expect_error hcontent what out index
    exact ⟨message, by rw [hmessage]; rfl⟩

/-- Where they are not, the walk ends with the error of the patch. -/
theorem foldlM_apply_of_not_prefix {lines rest : List Line}
    (h : ¬lines.filterMap oldLine <+: rest) (out : List Line) (index : Nat) :
    ∃ message, lines.foldlM Cursor.apply ⟨out, index, rest⟩ =
      .error (.invalidPatchArtifact message) := by
  induction lines generalizing out index rest with
  | nil => exact absurd List.nil_prefix h
  | cons line lines ih =>
      rw [List.foldlM_cons]
      rcases hunkLine_cases line with ⟨content, rfl⟩ | ⟨content, rfl⟩ | ⟨content, rfl⟩ | ⟨hold, hnew⟩
      · obtain ⟨message, hmessage⟩ := expect_bind_of_not_prefix h "context" out index
          (fun cursor => lines.foldlM Cursor.apply (cursor.push content))
          fun rest hrest => ih hrest (out ++ [content]) (index + 1)
        refine ⟨message, ?_⟩
        rw [← hmessage, apply_context]
        cases Cursor.expect ⟨out, index, rest⟩ "context" content with
        | error e => rfl
        | ok cursor => rfl
      · rw [apply_deletion]
        exact expect_bind_of_not_prefix h "deletion" out index _ fun rest hrest =>
          ih hrest out (index + 1)
      · rw [apply_addition]
        exact ih h (out ++ [content]) index
      · rw [apply_other hold hnew]
        rw [List.filterMap_cons_none hold] at h
        exact ih h out index

/-! ### The hunks of a patch -/

/-- Where the cursor stands after copying up to a hunk whose header says `start`. -/
def reached (original : List Line) (index start : Nat) : Nat :=
  max index (min (start - 1) original.length)

/-- The old lines of every hunk are where the cursor stands when it comes to the hunk. -/
def Found (original : List Line) : Nat → List DeclaredHunk → Prop
  | _, [] => True
  | index, h :: hunks =>
      h.old <+: original.drop (reached original index h.start) ∧
        Found original (reached original index h.start + h.old.length) hunks

/-- The interpreter converts the start line of every hunk that the walk comes to. -/
def Readable (original : List Line) : Nat → List DeclaredHunk → Prop
  | _, [] => True
  | index, h :: hunks =>
      h.header.oStart.length ≤ 4300 ∧
        (h.old <+: original.drop (reached original index h.start) →
          Readable original (reached original index h.start + h.old.length) hunks)

theorem intOfDigits_eq (digits : List Char) :
    intOfDigits digits =
      if 4300 < digits.length then .error (.raised .valueError) else .ok (digitsValue digits) := rfl

theorem copyTo_eq (out original : List Line) {index : Nat} (hindex : index ≤ original.length)
    (start : Nat) :
    ∃ out', Cursor.copyTo ⟨out, index, original.drop index⟩ (start - 1) =
      ⟨out', reached original index start, original.drop (reached original index start)⟩ := by
  have hkept : ((original.drop index).take (start - 1 - index)).length =
      min (start - 1 - index) (original.length - index) := by
    rw [List.length_take, List.length_drop]
  refine ⟨out ++ (original.drop index).take (start - 1 - index), ?_⟩
  rw [Cursor.copyTo]
  dsimp only
  rw [hkept, List.drop_drop]
  have hnext : index + min (start - 1 - index) (original.length - index) =
      reached original index start := by
    rw [reached]
    omega
  rw [hnext]
  congr 1
  rw [reached]
  rcases Nat.le_total (index + (start - 1 - index)) original.length with hle | hle
  · congr 1
    omega
  · rw [List.drop_of_length_le hle, List.drop_of_length_le (by omega)]

structure WalkSpec (original : List Line) (index : Nat) (hunks : List DeclaredHunk)
    (result : Except WorkspaceError Cursor) : Prop where
  applied : Readable original index hunks → Found original index hunks →
    ∃ cursor, result = .ok cursor
  mismatch : Readable original index hunks → ¬Found original index hunks →
    ∃ message, result = .error (.invalidPatchArtifact message)
  unreadable : ¬Readable original index hunks → result = .error (.raised .valueError)

theorem walkSpec (original : List Line) (hunks : List DeclaredHunk) (out : List Line)
    {index : Nat} (hindex : index ≤ original.length) :
    WalkSpec original index hunks ((hunks.map DeclaredHunk.hunk).foldlM Cursor.applyHunk
      ⟨out, index, original.drop index⟩) := by
  induction hunks generalizing out index with
  | nil => exact ⟨fun _ _ => ⟨_, rfl⟩, fun _ hfound => absurd trivial hfound,
      fun hread => absurd trivial hread⟩
  | cons h hunks ih =>
      rw [List.map_cons, List.foldlM_cons, Cursor.applyHunk, intOfDigits_eq]
      by_cases hlong : 4300 < h.hunk.start.length
      · have hunreadable : ¬Readable original index (h :: hunks) :=
          fun hread => Nat.not_lt.mpr hread.1 hlong
        rw [if_pos hlong]
        exact ⟨fun hread => absurd hread hunreadable, fun hread => absurd hread hunreadable,
          fun _ => rfl⟩
      have hdigits : h.header.oStart.length ≤ 4300 := Nat.not_lt.mp hlong
      obtain ⟨out', hcopy⟩ := copyTo_eq out original hindex h.start
      rw [if_neg hlong]
      show WalkSpec original index (h :: hunks) ((h.lines.foldlM Cursor.apply
        (Cursor.copyTo _ (h.start - 1))).bind _)
      rw [hcopy]
      by_cases hold : h.old <+: original.drop (reached original index h.start)
      · have hlength := hold.length_le
        have hreached : reached original index h.start ≤ original.length := by
          rw [reached]
          omega
        rw [List.length_drop] at hlength
        obtain ⟨happlied, hmismatch, hunreadable⟩ := ih (out' ++ h.lines.filterMap newLine)
          (show reached original index h.start + h.old.length ≤ original.length by omega)
        rw [foldlM_apply_oldLines hold, List.drop_drop]
        refine ⟨?_, ?_, ?_⟩
        · intro hread hfound
          exact happlied (hread.2 hold) hfound.2
        · intro hread hfound
          exact hmismatch (hread.2 hold) fun hrest => hfound ⟨hold, hrest⟩
        · intro hread
          exact hunreadable fun hrest => hread ⟨hdigits, fun _ => hrest⟩
      · obtain ⟨message, hmessage⟩ :=
          foldlM_apply_of_not_prefix hold out' (reached original index h.start)
        rw [hmessage]
        refine ⟨fun _ hfound => absurd hfound.1 hold, fun _ _ => ⟨message, rfl⟩, ?_⟩
        intro hread
        exact absurd ⟨hdigits, fun hfirst => absurd hfirst hold⟩ hread

/-! ### Placement -/

/-- The hunks stand where their headers say, with the lengths their headers say. -/
structure Placed (original : List Line) (hunks : List DeclaredHunk) : Prop where
  /-- The old lines of a hunk are those of the original from the old start line on. -/
  stands : ∀ h ∈ hunks, h.old ≠ [] →
    1 ≤ h.start ∧ (original.drop (h.start - 1)).take h.old.length = h.old
  /-- No hunk overlaps the next one or comes after it. -/
  ordered : hunks.IsChain fun h next => h.position + h.old.length ≤ next.position
  /-- No hunk starts past the end. -/
  inside : ∀ h ∈ hunks, h.position ≤ original.length
  lengths : ∀ h ∈ hunks, h.old.length = declaredLength h.header.oLen ∧
    h.new.length = declaredLength h.header.nLen

/-- The numbers of the headers fit each other, the bodies of their hunks and an original of
`length` lines. -/
structure HeadersFit (length : Nat) (hunks : List DeclaredHunk) : Prop where
  positive : ∀ h ∈ hunks, h.old ≠ [] → 1 ≤ h.start
  ordered : hunks.IsChain fun h next => h.position + h.old.length ≤ next.position
  inside : ∀ h ∈ hunks, h.position ≤ length
  lengths : ∀ h ∈ hunks, h.old.length = declaredLength h.header.oLen ∧
    h.new.length = declaredLength h.header.nLen

theorem Placed.headersFit {original : List Line} {hunks : List DeclaredHunk}
    (h : Placed original hunks) : HeadersFit original.length hunks :=
  ⟨fun hunk hmem hold => (h.stands hunk hmem hold).1, h.ordered, h.inside, h.lengths⟩

/-- Where the numbers fit, the cursor stands at the start line of a hunk with old lines, and no
later than the start of any hunk. -/
theorem stands_of_found {original : List Line} {hunks : List DeclaredHunk}
    (hfit : HeadersFit original.length hunks) {index : Nat}
    (hindex : ∀ h ∈ hunks.head?, index ≤ h.position) (hfound : Found original index hunks) :
    ∀ h ∈ hunks, h.old ≠ [] → (original.drop (h.start - 1)).take h.old.length = h.old := by
  induction hunks generalizing index with
  | nil => exact fun h hmem => absurd hmem List.not_mem_nil
  | cons h hunks ih =>
      have hfirst : index ≤ h.position := hindex h rfl
      have hinside : h.position ≤ original.length := hfit.inside h List.mem_cons_self
      have hordered := List.isChain_cons.mp hfit.ordered
      have hcursor : reached original index h.start ≤ h.position ∧
          (h.old ≠ [] → reached original index h.start = h.start - 1) := by
        rw [DeclaredHunk.position] at hfirst hinside ⊢
        rw [reached]
        split at hfirst <;> rename_i hold
        · rw [if_pos hold] at hinside ⊢
          exact ⟨by omega, fun hsome => absurd hold hsome⟩
        · rw [if_neg hold] at hinside ⊢
          exact ⟨by omega, fun _ => by omega⟩
      have hrest : HeadersFit original.length hunks :=
        ⟨fun next hmem => hfit.positive next (List.mem_cons_of_mem _ hmem), hordered.2,
          fun next hmem => hfit.inside next (List.mem_cons_of_mem _ hmem),
          fun next hmem => hfit.lengths next (List.mem_cons_of_mem _ hmem)⟩
      intro other hother hold
      rcases List.mem_cons.mp hother with rfl | hother
      · rw [← hcursor.2 hold]
        exact (List.prefix_iff_eq_take.mp hfound.1).symm
      · refine ih hrest ?_ hfound.2 other hother hold
        intro next hnext
        have hgap := hordered.1 next hnext
        omega

/-- A patch that goes through is placed exactly if the numbers of its headers fit. -/
theorem placed_iff_headersFit {original : List Line} {hunks : List DeclaredHunk}
    (hfound : Found original 0 hunks) :
    Placed original hunks ↔ HeadersFit original.length hunks := by
  constructor
  · exact Placed.headersFit
  · intro hfit
    refine ⟨?_, hfit.ordered, hfit.inside, hfit.lengths⟩
    intro h hmem hold
    exact ⟨hfit.positive h hmem hold,
      stands_of_found hfit (fun h _ => Nat.zero_le h.position) hfound h hmem hold⟩

/-! ### Applying -/

theorem declaredHunks_of_blank {patch : String}
    (h : (strip (.text patch)).codePoints.isEmpty = true) : declaredHunks patch = [] := by
  have hunmarked : ∀ line ∈ splitLines patch, ¬['@', '@'] <+: line := by
    rintro line hline ⟨rest, rfl⟩
    rcases mem_of_splitLinesFrom List.mem_cons_self hline with hnone | hat
    · exact absurd hnone List.not_mem_nil
    · rw [strip_ne_empty hat (by decide)] at h
      cases h
  have hnone : hunksOf (splitLines patch) = [] := by
    rw [hunksOf, foldl_read_preamble hunmarked]
    rfl
  rw [hunksOf_eq_map] at hnone
  exact List.map_eq_nil_iff.mp hnone

/-- A patch goes through only where every hunk is placed as its header says, and any other ends
with the error of the patch. -/
def AppliedAsDeclared (original patch : String) : Prop :=
  match applyUnifiedPatch original patch with
  | .ok _ => Placed (splitLines original) (declaredHunks patch)
  | .error e => ∃ message, e = .invalidPatchArtifact message

theorem appliedAsDeclared_iff_patchedLines (original patch : String) :
    AppliedAsDeclared original patch ↔
      (∀ result, patchedLines original patch = .ok result →
        Placed (splitLines original) (declaredHunks patch)) ∧
      ∀ e, patchedLines original patch = .error e →
        ∃ message, e = .invalidPatchArtifact message := by
  rw [AppliedAsDeclared, applyUnifiedPatch_eq]
  cases patchedLines original patch with
  | ok result => simp [Except.map]
  | error e => simp [Except.map]

theorem headersFit_nil (length : Nat) : HeadersFit length [] :=
  ⟨fun _ hmem => absurd hmem List.not_mem_nil, List.isChain_nil,
    fun _ hmem => absurd hmem List.not_mem_nil, fun _ hmem => absurd hmem List.not_mem_nil⟩

theorem patchedLines_of_hunks {original patch : String} (h : declaredHunks patch ≠ []) :
    patchedLines original patch =
      (((declaredHunks patch).map DeclaredHunk.hunk).foldlM Cursor.applyHunk
        ⟨[], 0, splitLines original⟩).map
          fun cursor => (cursor.out ++ cursor.rest, (declaredHunks patch).length) := by
  have hblank : ¬(strip (.text patch)).codePoints.isEmpty = true :=
    fun hblank => h (declaredHunks_of_blank hblank)
  rw [patchedLines, if_neg hblank, hunksOf_eq_map]
  dsimp only
  rw [if_neg (by simpa using h), List.length_map]
  generalize List.foldlM Cursor.applyHunk _ _ = walk
  cases walk <;> rfl

theorem patchedLines_of_no_hunks (original : String) {patch : String}
    (h : declaredHunks patch = []) :
    ∃ message, patchedLines original patch = .error (.invalidPatchArtifact message) := by
  rw [patchedLines, hunksOf_eq_map, h]
  split
  · exact ⟨_, rfl⟩
  · exact ⟨_, rfl⟩

/-- A patch is applied as declared exactly if its start lines can be read and, where the old lines
of every hunk are found, the numbers of its headers fit. -/
theorem appliedAsDeclared_iff (original patch : String) :
    AppliedAsDeclared original patch ↔
      Readable (splitLines original) 0 (declaredHunks patch) ∧
        (Found (splitLines original) 0 (declaredHunks patch) →
          HeadersFit (splitLines original).length (declaredHunks patch)) := by
  rw [appliedAsDeclared_iff_patchedLines]
  by_cases hhunks : declaredHunks patch = []
  · obtain ⟨message, hmessage⟩ := patchedLines_of_no_hunks original hhunks
    rw [hmessage, hhunks]
    have hfits := headersFit_nil (splitLines original).length
    simp [Readable, hfits]
  rw [patchedLines_of_hunks hhunks]
  obtain ⟨happlied, hmismatch, hunreadable⟩ :=
    walkSpec (splitLines original) (declaredHunks patch) [] (Nat.zero_le _)
  rw [List.drop_zero] at happlied hmismatch hunreadable
  by_cases hread : Readable (splitLines original) 0 (declaredHunks patch)
  · by_cases hfound : Found (splitLines original) 0 (declaredHunks patch)
    · obtain ⟨cursor, hcursor⟩ := happlied hread hfound
      rw [hcursor, placed_iff_headersFit hfound]
      simp [Except.map, hread, hfound]
    · obtain ⟨message, hmessage⟩ := hmismatch hread hfound
      rw [hmessage]
      simp [Except.map, hread, hfound]
  · rw [hunreadable hread]
    simp [Except.map, hread]

namespace Sample

/-- The second hunk is for the line before that of the first one. -/
def backwards : String := "@@ -2 +1,0 @@\n-a\n@@ -1 +0,0 @@\n-a\n"

end Sample

/-- The lines that are deleted are not those that the headers name. -/
theorem backwards_applied :
    applyUnifiedPatch "a\na\na\n" Sample.backwards = .ok ("a\n", 2) ∧
      ¬AppliedAsDeclared "a\na\na\n" Sample.backwards := by
  have hrun : applyUnifiedPatch "a\na\na\n" Sample.backwards = .ok ("a\n", 2) := by decide +kernel
  have hpositions : (declaredHunks Sample.backwards).map
      (fun h => (h.position, h.old.length)) = [(1, 1), (0, 1)] := by
    decide +kernel
  refine ⟨hrun, ?_⟩
  rw [AppliedAsDeclared, hrun]
  intro hplaced
  obtain ⟨first, second, hhunks⟩ :
      ∃ first second, declaredHunks Sample.backwards = [first, second] :=
    List.length_eq_two.mp (by simpa using congrArg List.length hpositions)
  rw [hhunks] at hpositions
  have hordered := hplaced.ordered
  rw [hhunks, List.isChain_pair] at hordered
  simp only [List.map_cons, List.map_nil, List.cons.injEq, Prod.mk.injEq] at hpositions
  omega

end Kin.Artifacts
