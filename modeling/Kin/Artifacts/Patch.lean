import Kin.Session.AdapterRequest

/-!
The unified diffs of `kin/artifacts/workspace.py`: the hunks of a patch are read
line by line, and applying them walks the original once. The path of a line into the
result is either way short: it is kept from the original or added by the patch.
-/

namespace Kin.Artifacts

open Kin.Py Kin.Session

/-- The exceptions of `kin/artifacts/workspace.py`, and those that pass through it. -/
inductive WorkspaceError
  | unsafeWorkspacePath (message : PyStr)
  | workspaceNotConfigured (message : PyStr)
  | workspaceWritePermissionDenied (message : PyStr)
  | invalidPatchArtifact (message : PyStr)
  | artifactNotFound (message : PyStr)
  | artifactCorrupted (message : PyStr)
  | unicodeDecodeError
  | osError (name : String)
  | raised (exc : PyExc)
  deriving DecidableEq

abbrev Line := List Char

/-! ### Lines -/

/-- Where `str.splitlines` ends a line. -/
def isLineBreak (c : Char) : Bool :=
  (10 ≤ c.toNat && c.toNat ≤ 13) || (28 ≤ c.toNat && c.toNat ≤ 30) || c.toNat == 0x85 ||
    c.toNat == 0x2028 || c.toNat == 0x2029

/-- `str.splitlines`, after the characters `line` (the last first) of an unfinished line. -/
def splitLinesFrom : Line → List Char → List Line
  | line, [] => if line.isEmpty then [] else [line.reverse]
  | line, '\r' :: '\n' :: text => line.reverse :: splitLinesFrom [] text
  | line, c :: text =>
      if isLineBreak c then line.reverse :: splitLinesFrom [] text
      else splitLinesFrom (c :: line) text

def splitLines (text : String) : List Line := splitLinesFrom [] text.toList

example : splitLines "a\r\n\nb" = [['a'], [], ['b']] := by decide

/-- `"\n".join(lines)`. -/
def joinLines (lines : List Line) : String := String.ofList (['\n'].intercalate lines)

/-! ### Hunk headers -/

/-- `\s+`: what follows the white space. -/
def readSpaces (text : List Char) : Option (List Char) :=
  let rest := text.dropWhile fun c => isSpaceCode c.toNat
  if rest.length < text.length then some rest else none

/-- `\d+`: the digits and what follows them. -/
def readDigits (text : List Char) : Option (List Char × List Char) :=
  if (text.takeWhile isDecimal).isEmpty then none
  else some (text.takeWhile isDecimal, text.dropWhile isDecimal)

/-- `(?:,\d+)?`: a comma without digits stays where it is. -/
def readLength : List Char → List Char
  | ',' :: text => ((readDigits text).map (·.2)).getD (',' :: text)
  | text => text

def readChar (c : Char) : List Char → Option (List Char)
  | d :: text => if d = c then some text else none
  | [] => none

/-- `hunk_header_re.match`: the digits of the group `o_start`. No two neighbouring parts
of the pattern share a character, so the first way of reading is the only one. -/
def hunkHeader (line : Line) : Option (List Char) := do
  let text ← readChar '@' line
  let text ← readChar '@' text
  let text ← readSpaces text
  let text ← readChar '-' text
  let (start, text) ← readDigits text
  let text ← readSpaces (readLength text)
  let text ← readChar '+' text
  let (_, text) ← readDigits text
  let text ← readSpaces (readLength text)
  let text ← readChar '@' text
  let _ ← readChar '@' text
  some start

example : hunkHeader "@@ -12,3 +14 @@ def main():".toList = some ['1', '2'] := by decide

/-- `int()` of digits: the interpreter refuses more than 4300 of them. -/
def intOfDigits (digits : List Char) : Except WorkspaceError Nat :=
  if 4300 < digits.length then .error (.raised .valueError)
  else .ok (digits.foldl (fun n c => 10 * n + digitValue c) 0)

/-! ### Hunks -/

structure Hunk where
  start : List Char
  lines : List Line

/-- The variables of the loop over the lines of a patch: `hunks`, `hunk_match` and
`current_hunk_lines`. -/
structure HunkScan where
  hunks : List Hunk := []
  header : Option (List Char) := none
  current : List Line := []

def noNewline (line : Line) : Bool := "\\ No newline".toList.isPrefixOf line

/-- `line.startswith(("-", "+", " ")) or line.startswith("\\ No newline")`. -/
def isHunkLine (line : Line) : Bool :=
  match line with
  | '-' :: _ | '+' :: _ | ' ' :: _ => true
  | _ => noNewline line

/-- The hunk that is being read goes to the others, unless it has no lines. -/
def HunkScan.close (scan : HunkScan) : HunkScan :=
  match scan.header with
  | some start =>
      if scan.current.isEmpty then scan
      else { scan with hunks := scan.hunks ++ [⟨start, scan.current⟩], current := [] }
  | none => scan

def HunkScan.read (scan : HunkScan) (line : Line) : HunkScan :=
  match hunkHeader line with
  | some start => { scan.close with header := some start }
  | none =>
      if scan.header.isSome && isHunkLine line then
        { scan with current := scan.current ++ [line] }
      else scan

def hunksOf (lines : List Line) : List Hunk := (lines.foldl HunkScan.read {}).close.hunks

/-! ### Applying -/

/-- The variables of the walk: `out_lines`, and `orig_idx` with the lines from there on. -/
structure Cursor where
  out : List Line
  index : Nat
  rest : List Line

/-- The loop that copies up to the line `target`. -/
def Cursor.copyTo (cursor : Cursor) (target : Nat) : Cursor :=
  let kept := cursor.rest.take (target - cursor.index)
  { out := cursor.out ++ kept, index := cursor.index + kept.length
    rest := cursor.rest.drop (target - cursor.index) }

def mismatch (what : String) (cursor : Cursor) (expected : Line) : WorkspaceError :=
  .invalidPatchArtifact (.text ("Patch " ++ what ++ " mismatch at original line " ++
    toString (cursor.index + 1) ++ ": expected '" ++ String.ofList expected ++ "', found '" ++
    (cursor.rest.head?.map String.ofList).getD "<EOF>" ++ "'"))

def Cursor.push (cursor : Cursor) (line : Line) : Cursor :=
  { cursor with out := cursor.out ++ [line] }

/-- Past the next line of the original, which has to be `content`. -/
def Cursor.expect (cursor : Cursor) (what : String) (content : Line) :
    Except WorkspaceError Cursor :=
  match cursor.rest with
  | original :: rest =>
      if original = content then .ok ⟨cursor.out, cursor.index + 1, rest⟩
      else .error (mismatch what cursor content)
  | [] => .error (mismatch what cursor content)

def Cursor.apply (cursor : Cursor) (line : Line) : Except WorkspaceError Cursor :=
  if noNewline line then .ok cursor
  else
    match line with
    | ' ' :: content => (cursor.expect "context" content).map (·.push content)
    | '-' :: content => cursor.expect "deletion" content
    | '+' :: content => .ok (cursor.push content)
    -- No line that `isHunkLine` lets through comes here.
    | _ => .ok cursor

def Cursor.applyHunk (cursor : Cursor) (hunk : Hunk) : Except WorkspaceError Cursor := do
  let start ← intOfDigits hunk.start
  hunk.lines.foldlM Cursor.apply (cursor.copyTo (start - 1))

/-- The lines that `apply_unified_patch` joins, and the number of hunks. -/
def patchedLines (original patch : String) : Except WorkspaceError (List Line × Nat) :=
  if (strip (.text patch)).codePoints.isEmpty then
    .error (.invalidPatchArtifact (.text "Patch content is empty."))
  else
    let hunks := hunksOf (splitLines patch)
    if hunks.isEmpty then
      .error (.invalidPatchArtifact
        (.text "No valid unified diff hunks found in patch artifact."))
    else do
      let cursor ← hunks.foldlM Cursor.applyHunk ⟨[], 0, splitLines original⟩
      .ok (cursor.out ++ cursor.rest, hunks.length)

/-- `apply_unified_patch`, without the diff it renders for display. -/
def applyUnifiedPatch (original patch : String) : Except WorkspaceError (String × Nat) := do
  let (lines, count) ← patchedLines original patch
  let text := joinLines lines
  if original.toList.getLast? = some '\n' ∧ text.toList.getLast? ≠ some '\n' then
    .ok (text ++ "\n", count)
  else .ok (text, count)

example : applyUnifiedPatch "a\nb\n" "@@ -1,2 +1,2 @@\n a\n-b\n+c" = .ok ("a\nc\n", 1) := by
  decide

/-! ### Where a line of the result comes from -/

def HunkScan.From (lines : List Line) (scan : HunkScan) : Prop :=
  (∀ hunk ∈ scan.hunks, ∀ line ∈ hunk.lines, line ∈ lines) ∧ ∀ line ∈ scan.current, line ∈ lines

theorem HunkScan.From.close {lines : List Line} {scan : HunkScan} (h : scan.From lines) :
    scan.close.From lines := by
  unfold HunkScan.close
  split
  · split
    · exact h
    · refine ⟨fun hunk hmem => ?_, fun line hmem => absurd hmem List.not_mem_nil⟩
      rcases List.mem_append.mp hmem with hold | hnew
      · exact h.1 hunk hold
      · rw [List.mem_singleton.mp hnew]
        exact h.2
  · exact h

theorem HunkScan.From.read {lines : List Line} {scan : HunkScan} (h : scan.From lines)
    {line : Line} (hline : line ∈ lines) : (scan.read line).From lines := by
  unfold HunkScan.read
  split
  · exact h.close
  · split
    · refine ⟨h.1, fun other hmem => ?_⟩
      rcases List.mem_append.mp hmem with hold | hnew
      · exact h.2 other hold
      · rw [List.mem_singleton.mp hnew]
        exact hline
    · exact h

theorem hunk_lines_subset {lines : List Line} {hunk : Hunk} (hhunk : hunk ∈ hunksOf lines)
    {line : Line} (hline : line ∈ hunk.lines) : line ∈ lines := by
  have hscan : ∀ (scan : HunkScan) (read : List Line), scan.From lines → read ⊆ lines →
      (read.foldl HunkScan.read scan).From lines := by
    intro scan read hfrom hsubset
    induction read generalizing scan with
    | nil => exact hfrom
    | cons first read ih =>
        obtain ⟨hfirst, hrest⟩ := List.cons_subset.mp hsubset
        exact ih _ (hfrom.read hfirst) hrest
  have hstart : HunkScan.From lines {} :=
    ⟨fun _ h => absurd h List.not_mem_nil, fun _ h => absurd h List.not_mem_nil⟩
  exact (hscan {} lines hstart (List.Subset.refl lines)).close.1 hunk hhunk line hline

/-- The lines written so far are kept or added ones, and what is left is original. -/
def Cursor.From (original added : List Line) (cursor : Cursor) : Prop :=
  (∀ line ∈ cursor.out, line ∈ original ∨ '+' :: line ∈ added) ∧ cursor.rest ⊆ original

theorem Cursor.From.copyTo {original added : List Line} {cursor : Cursor}
    (h : cursor.From original added) (target : Nat) :
    (cursor.copyTo target).From original added := by
  refine ⟨fun line hmem => ?_, fun line hmem => h.2 (List.mem_of_mem_drop hmem)⟩
  rcases List.mem_append.mp hmem with hold | hnew
  · exact h.1 line hold
  · exact .inl (h.2 (List.mem_of_mem_take hnew))

theorem Cursor.From.push {original added : List Line} {cursor : Cursor}
    (h : cursor.From original added) {line : Line}
    (hline : line ∈ original ∨ '+' :: line ∈ added) : (cursor.push line).From original added := by
  refine ⟨fun other hmem => ?_, h.2⟩
  rcases List.mem_append.mp hmem with hold | hnew
  · exact h.1 other hold
  · rw [List.mem_singleton.mp hnew]
    exact hline

theorem Cursor.From.expect {original added : List Line} {cursor cursor' : Cursor}
    (h : cursor.From original added) {what : String} {content : Line}
    (hexpect : cursor.expect what content = .ok cursor') :
    cursor'.From original added ∧ content ∈ original := by
  unfold Cursor.expect at hexpect
  split at hexpect
  · rename_i line rest hrest
    have hsubset : line :: rest ⊆ original := hrest ▸ h.2
    obtain ⟨hline, hkept⟩ := List.cons_subset.mp hsubset
    split at hexpect
    · rename_i heq
      cases hexpect
      exact ⟨⟨h.1, hkept⟩, heq ▸ hline⟩
    · cases hexpect
  · cases hexpect

theorem Cursor.From.apply {original added : List Line} {cursor cursor' : Cursor}
    (h : cursor.From original added) {line : Line} (hline : line ∈ added)
    (happly : cursor.apply line = .ok cursor') : cursor'.From original added := by
  unfold Cursor.apply at happly
  split at happly
  · cases happly
    exact h
  split at happly
  · rename_i content _
    cases hexpect : cursor.expect "context" content with
    | error e =>
        rw [hexpect] at happly
        cases happly
    | ok mid =>
        rw [hexpect] at happly
        cases happly
        obtain ⟨hmid, hcontent⟩ := h.expect hexpect
        exact hmid.push (.inl hcontent)
  · exact (h.expect happly).1
  · cases happly
    exact h.push (.inr hline)
  · cases happly
    exact h

/-- A fold that can fail keeps what each of its steps keeps. -/
theorem foldlM_invariant {σ ι : Type} {I : σ → Prop} {f : σ → ι → Except WorkspaceError σ}
    {items : List ι} (hf : ∀ s item s', item ∈ items → I s → f s item = .ok s' → I s')
    {s s' : σ} (hs : I s) (h : items.foldlM f s = .ok s') : I s' := by
  induction items generalizing s with
  | nil =>
      cases h
      exact hs
  | cons item items ih =>
      rw [List.foldlM_cons] at h
      cases hitem : f s item with
      | error e =>
          rw [hitem] at h
          cases h
      | ok mid =>
          rw [hitem] at h
          have hmid : I mid := hf s item mid List.mem_cons_self hs hitem
          exact ih (fun s item s' hmem => hf s item s' (List.mem_cons_of_mem _ hmem)) hmid h

theorem Cursor.From.applyHunk {original added : List Line} {cursor cursor' : Cursor}
    (h : cursor.From original added) {hunk : Hunk} (hhunk : ∀ line ∈ hunk.lines, line ∈ added)
    (happly : cursor.applyHunk hunk = .ok cursor') : cursor'.From original added := by
  unfold Cursor.applyHunk at happly
  cases hstart : intOfDigits hunk.start with
  | error e =>
      rw [hstart] at happly
      cases happly
  | ok start =>
      rw [hstart] at happly
      exact foldlM_invariant (fun _ line _ hmem hfrom hline => hfrom.apply (hhunk line hmem) hline)
        (h.copyTo (start - 1)) happly

/-- Every line of a patched text is a line of the original or one that the patch adds. -/
theorem line_of_patchedLines {original patch : String} {lines : List Line} {count : Nat}
    (h : patchedLines original patch = .ok (lines, count)) :
    ∀ line ∈ lines, line ∈ splitLines original ∨ '+' :: line ∈ splitLines patch := by
  unfold patchedLines at h
  split at h
  · cases h
  dsimp only at h
  split at h
  · cases h
  cases hwalk : (hunksOf (splitLines patch)).foldlM Cursor.applyHunk
      ⟨[], 0, splitLines original⟩ with
  | error e =>
      rw [hwalk] at h
      cases h
  | ok cursor =>
      rw [hwalk] at h
      cases h
      have hfrom : cursor.From (splitLines original) (splitLines patch) :=
        foldlM_invariant (I := Cursor.From (splitLines original) (splitLines patch))
          (fun _ hunk _ hmem hfrom happly =>
            hfrom.applyHunk (fun line hline => hunk_lines_subset hmem hline) happly)
          ⟨fun _ hmem => absurd hmem List.not_mem_nil, List.Subset.refl _⟩ hwalk
      intro line hmem
      rcases List.mem_append.mp hmem with hout | hrest
      · exact hfrom.1 line hout
      · exact .inl (hfrom.2 hrest)

end Kin.Artifacts
