import Kin.Artifacts.Patch
import Kin.Lib.ListDiff
import Kin.Py.Stamp
import Mathlib.Data.List.TakeWhile

/-!
What `apply_unified_patch` makes of a correct diff. The diffs are those of the unified format with
any amount of context; a header with an old range of length zero names the line after which the
hunk inserts, and the loop that copies up to a hunk stops before that line.
-/

namespace Kin.Artifacts

open Kin.Py Kin.Session Kin.Lib

/-! ### Texts as lines -/

/-- A line that `str.splitlines` does not split. -/
def Unbroken (line : Line) : Prop := ∀ c ∈ line, isLineBreak c = false

/-- The text of lines that end with a newline each. -/
def textOf (lines : List Line) : String := String.ofList (lines.flatMap fun line => line ++ ['\n'])

theorem splitLinesFrom_cons {c : Char} (hc : isLineBreak c = false) (line : Line)
    (text : List Char) : splitLinesFrom line (c :: text) = splitLinesFrom (c :: line) text := by
  have hreturn : c ≠ '\r' := by
    rintro rfl
    cases hc
  rw [splitLinesFrom.eq_3 _ _ _ (fun _ h => absurd h hreturn)]
  rw [if_neg (by simp [hc])]

theorem splitLinesFrom_append {line : Line} (h : Unbroken line) (done : Line) (text : List Char) :
    splitLinesFrom done (line ++ text) = splitLinesFrom (line.reverse ++ done) text := by
  induction line generalizing done with
  | nil => rfl
  | cons c line ih =>
      obtain ⟨hc, hline⟩ := List.forall_mem_cons.mp h
      rw [List.cons_append, splitLinesFrom_cons hc, ih hline, List.reverse_cons, List.append_assoc,
        List.singleton_append]

theorem splitLinesFrom_textOf {lines : List Line} (h : ∀ line ∈ lines, Unbroken line)
    (text : List Char) :
    splitLinesFrom [] (lines.flatMap (fun line => line ++ ['\n']) ++ text) =
      lines ++ splitLinesFrom [] text := by
  induction lines with
  | nil => rfl
  | cons line lines ih =>
      obtain ⟨hline, hlines⟩ := List.forall_mem_cons.mp h
      rw [List.flatMap_cons, List.append_assoc, List.append_assoc, splitLinesFrom_append hline,
        List.singleton_append, splitLinesFrom.eq_3 _ _ _ (by simp), if_pos (by decide), ih hlines]
      simp

theorem splitLines_textOf {lines : List Line} (h : ∀ line ∈ lines, Unbroken line) :
    splitLines (textOf lines) = lines := by
  have hlines := splitLinesFrom_textOf h []
  rw [List.append_nil] at hlines
  rw [splitLines, textOf, String.toList_ofList, hlines]
  exact List.append_nil lines

theorem joinLines_concat (lines : List Line) (line : Line) :
    joinLines (lines ++ [line]) =
      String.ofList (lines.flatMap (fun line => line ++ ['\n']) ++ line) := by
  rw [joinLines]
  congr 1
  induction lines with
  | nil => simp
  | cons first lines ih =>
      rw [List.cons_append, List.intercalate_cons_of_ne_nil (by simp), ih]
      simp

theorem splitLines_joinLines_concat {lines : List Line} {line : Line}
    (h : ∀ line ∈ lines, Unbroken line) (hline : Unbroken line) :
    splitLines (joinLines (lines ++ [line])) =
      lines ++ if line.isEmpty then [] else [line] := by
  rw [joinLines_concat, splitLines, String.toList_ofList, splitLinesFrom_textOf h]
  congr 1
  have hlast := splitLinesFrom_append hline [] []
  rw [List.append_nil, List.append_nil] at hlast
  rw [hlast, splitLinesFrom]
  simp

/-! ### Diffs -/

def editText : Edit Line → Line
  | .keep line => ' ' :: line
  | .delete line => '-' :: line
  | .insert line => '+' :: line

/-- The number in a header for a range of so many lines after `before` others: a range of length
zero is named by the line before it. -/
def rangeStart (before length : Nat) : Nat := if length = 0 then before else before + 1

/-- A range of a header; a length of one may be left out. -/
inductive RangeText (start length : Nat) : List Char → Prop
  | full : RangeText start length (Nat.toDigits 10 start ++ ',' :: Nat.toDigits 10 length)
  | one (h : length = 1) : RangeText start length (Nat.toDigits 10 start)

/-- `@@ -start,length +start,length @@`, and whatever follows it. -/
inductive HeaderText (oldStart oldLength newStart newLength : Nat) : Line → Prop
  | mk {oldRange newRange : List Char} (hold : RangeText oldStart oldLength oldRange)
      (hnew : RangeText newStart newLength newRange) (rest : List Char) :
      HeaderText oldStart oldLength newStart newLength
        ('@' :: '@' :: ' ' :: '-' :: (oldRange ++ ' ' :: '+' ::
          (newRange ++ ' ' :: '@' :: '@' :: rest)))

/-- A hunk of a diff with the lines that are kept before it, which the diff does not show, and
the number of its old range. -/
structure DiffHunk where
  change : Change Line
  start : Nat
  header : Line

namespace DiffHunk

def lines (h : DiffHunk) : List Line := h.header :: h.change.edits.map editText

def hunk (h : DiffHunk) : Hunk := ⟨Nat.toDigits 10 h.start, h.change.edits.map editText⟩

end DiffHunk

/-- The headers name the ranges of the hunks, after `i` lines of the old text and `j` of the
new one. -/
def Headed : Nat → Nat → List DiffHunk → Prop
  | _, _, [] => True
  | i, j, h :: hunks =>
      h.start = rangeStart (i + h.change.kept.length) h.change.old.length ∧
      HeaderText h.start h.change.old.length
        (rangeStart (j + h.change.kept.length) h.change.new.length) h.change.new.length h.header ∧
      Headed (i + h.change.kept.length + h.change.old.length)
        (j + h.change.kept.length + h.change.new.length) hunks

/-- A well-formed diff in the unified format. -/
structure UnifiedDiff (old new : List Line) where
  /-- The lines before the first hunk. -/
  preamble : List Line
  hunks : List DiffHunk
  /-- The lines that are kept after the last hunk. -/
  tail : List Line
  old_eq : oldOf (hunks.map (·.change)) tail = old
  new_eq : newOf (hunks.map (·.change)) tail = new
  unmarked : ∀ line ∈ preamble, ¬['@', '@'] <+: line
  edited : ∀ h ∈ hunks, h.change.edits ≠ []
  headed : Headed 0 0 hunks

def UnifiedDiff.lines {old new : List Line} (d : UnifiedDiff old new) : List Line :=
  d.preamble ++ d.hunks.flatMap DiffHunk.lines

/-! ### Reading headers -/

theorem isDecimal_of_isDigit {c : Char} (h : c.isDigit = true) : isDecimal c = true := by
  rw [Char.isDigit_iff_toNat] at h
  rw [isDecimal, List.any_eq_true]
  refine ⟨0x30, by simp [decimalZeros], ?_⟩
  simp only [Bool.and_eq_true, decide_eq_true_eq]
  have hbounds : 48 ≤ c.toNat ∧ c.toNat ≤ 57 := h
  omega

theorem digitValue_of_isDigit {c : Char} (h : c.isDigit = true) :
    digitValue c = c.toNat - '0'.toNat := by
  rw [Char.isDigit_iff_toNat] at h
  have hbounds : 48 ≤ c.toNat ∧ c.toNat ≤ 57 := h
  have hfirst : (decide (0x30 ≤ c.toNat) && decide (c.toNat < 0x30 + 10)) = true := by
    simp only [Bool.and_eq_true, decide_eq_true_eq]
    omega
  have hzeros : decimalZeros = 0x30 :: decimalZeros.tail := rfl
  rw [digitValue, hzeros]
  simp only [List.find?_cons, hfirst]
  rfl

/-- `int()` of the digits of a number, unless there are too many. -/
theorem intOfDigits_toDigits (n : Nat) :
    intOfDigits (Nat.toDigits 10 n) =
      if 4300 < (Nat.toDigits 10 n).length then .error (.raised .valueError) else .ok n := by
  have hvalue : (Nat.toDigits 10 n).foldl (fun n c => 10 * n + digitValue c) 0 = n := by
    have hdigits : (Nat.toDigits 10 n).foldl (fun n c => 10 * n + digitValue c) 0 =
        (Nat.toDigits 10 n).foldl (fun n c => 10 * n + (c.toNat - '0'.toNat)) 0 := by
      apply List.foldl_ext
      intro value c hc
      rw [digitValue_of_isDigit (Nat.isDigit_of_mem_toDigits (by decide) (by decide) hc)]
    rw [hdigits, ← Nat.ofDigitChars_eq_foldl, Nat.ofDigitChars_ten_toDigits]
  rw [intOfDigits, hvalue]

theorem readDigits_toDigits (n : Nat) {c : Char} (hc : isDecimal c = false) (rest : List Char) :
    readDigits (Nat.toDigits 10 n ++ c :: rest) = some (Nat.toDigits 10 n, c :: rest) := by
  have hdecimal : ∀ d ∈ Nat.toDigits 10 n, isDecimal d = true := by
    intro d hd
    exact isDecimal_of_isDigit (Nat.isDigit_of_mem_toDigits (by decide) (by decide) hd)
  have htake : (Nat.toDigits 10 n ++ c :: rest).takeWhile isDecimal = Nat.toDigits 10 n := by
    rw [List.takeWhile_append_of_pos hdecimal, List.takeWhile_cons_of_neg (by simp [hc]),
      List.append_nil]
  have hdrop : (Nat.toDigits 10 n ++ c :: rest).dropWhile isDecimal = c :: rest := by
    rw [List.dropWhile_append_of_pos hdecimal, List.dropWhile_cons_of_neg (by simp [hc])]
  rw [readDigits, htake, hdrop, if_neg]
  simp [Nat.toDigits_ne_nil]

/-- A range and the blank after it. -/
theorem read_range {start length : Nat} {range : List Char} (h : RangeText start length range)
    (rest : List Char) :
    ∃ text, readDigits (range ++ ' ' :: rest) = some (Nat.toDigits 10 start, text) ∧
      readLength text = ' ' :: rest := by
  cases h with
  | full =>
      refine ⟨',' :: (Nat.toDigits 10 length ++ ' ' :: rest), ?_, ?_⟩
      · rw [List.append_assoc, List.cons_append, readDigits_toDigits start (by decide)]
      · rw [readLength, readDigits_toDigits length (by decide)]
        rfl
  | one h =>
      exact ⟨' ' :: rest, readDigits_toDigits start (by decide) rest, rfl⟩

theorem readSpaces_blank {c : Char} (hc : isSpaceCode c.toNat = false) (rest : List Char) :
    readSpaces (' ' :: c :: rest) = some (c :: rest) := by
  have hblank : isSpaceCode ' '.toNat = true := by decide
  have hdrop : ((' ' :: c :: rest).dropWhile fun c => isSpaceCode c.toNat) = c :: rest := by
    simp only [List.dropWhile_cons, hblank, hc, if_true, Bool.false_eq_true, if_false]
  rw [readSpaces, hdrop]
  exact if_pos (by simp)

theorem hunkHeader_of_headerText {oldStart oldLength newStart newLength : Nat} {header : Line}
    (h : HeaderText oldStart oldLength newStart newLength header) :
    hunkHeader header = some (Nat.toDigits 10 oldStart) := by
  obtain ⟨hold, hnew, rest⟩ := h
  rename_i oldRange newRange
  obtain ⟨oldText, holdDigits, holdLength⟩ :=
    read_range hold ('+' :: (newRange ++ ' ' :: '@' :: '@' :: rest))
  obtain ⟨newText, hnewDigits, hnewLength⟩ := read_range hnew ('@' :: '@' :: rest)
  simp only [hunkHeader, readChar, if_true, Option.bind_eq_bind, Option.bind_some,
    readSpaces_blank (c := '-') (by decide), holdDigits, holdLength,
    readSpaces_blank (c := '+') (by decide), hnewDigits, hnewLength,
    readSpaces_blank (c := '@') (by decide)]

theorem mark_mem_header {oldStart oldLength newStart newLength : Nat} {header : Line}
    (h : HeaderText oldStart oldLength newStart newLength header) : '@' ∈ header := by
  cases h
  exact List.mem_cons_self

theorem hunkHeader_eq_none {line : Line} (h : ¬['@', '@'] <+: line) : hunkHeader line = none := by
  cases line with
  | nil => rfl
  | cons c line =>
      by_cases hc : c = '@'
      · subst hc
        cases line with
        | nil => rfl
        | cons d line =>
            have hd : d ≠ '@' := by
              rintro rfl
              exact h ⟨line, rfl⟩
            simp [hunkHeader, readChar, hd]
      · simp [hunkHeader, readChar, hc]

/-! ### The hunks of a diff -/

theorem hunkHeader_editText (e : Edit Line) : hunkHeader (editText e) = none := by
  cases e <;> rfl

theorem isHunkLine_editText (e : Edit Line) : isHunkLine (editText e) = true := by
  cases e <;> rfl

theorem noNewline_editText (e : Edit Line) : noNewline (editText e) = false := by
  cases e <;> rfl

theorem foldl_read_preamble {preamble : List Line} (h : ∀ line ∈ preamble, ¬['@', '@'] <+: line) :
    preamble.foldl HunkScan.read {} = {} := by
  induction preamble with
  | nil => rfl
  | cons line preamble ih =>
      obtain ⟨hline, hpreamble⟩ := List.forall_mem_cons.mp h
      have hread : HunkScan.read {} line = {} := by
        rw [HunkScan.read, hunkHeader_eq_none hline]
        rfl
      rw [List.foldl_cons, hread]
      exact ih hpreamble

theorem foldl_read_edits {scan : HunkScan} (h : scan.header.isSome = true)
    (edits : List (Edit Line)) :
    (edits.map editText).foldl HunkScan.read scan =
      { scan with current := scan.current ++ edits.map editText } := by
  induction edits generalizing scan with
  | nil => simp
  | cons e edits ih =>
      have hread : scan.read (editText e) =
          { scan with current := scan.current ++ [editText e] } := by
        rw [HunkScan.read, hunkHeader_editText]
        simp only [h, isHunkLine_editText, Bool.and_self, if_true]
      rw [List.map_cons, List.foldl_cons, hread]
      have hrest := @ih { scan with current := scan.current ++ [editText e] } h
      rw [hrest]
      simp

theorem close_foldl_read_lines {i j : Nat} {h : DiffHunk} {hunks : List DiffHunk} {scan : HunkScan}
    (hheaded : Headed i j (h :: hunks)) (hedited : h.change.edits ≠ [])
    (hclosed : scan.close.current = []) :
    (h.lines.foldl HunkScan.read scan).close =
      ⟨scan.close.hunks ++ [h.hunk], some (Nat.toDigits 10 h.start), []⟩ := by
  have hheader : scan.read h.header =
      { scan.close with header := some (Nat.toDigits 10 h.start) } := by
    rw [HunkScan.read, hunkHeader_of_headerText hheaded.2.1]
  rw [DiffHunk.lines, List.foldl_cons, hheader, foldl_read_edits rfl, HunkScan.close]
  simp [hclosed, hedited, DiffHunk.hunk]

theorem hunks_foldl_read {i j : Nat} {hunks : List DiffHunk} (hheaded : Headed i j hunks)
    (hedited : ∀ h ∈ hunks, h.change.edits ≠ []) {scan : HunkScan}
    (hclosed : scan.close.current = []) :
    ((hunks.flatMap DiffHunk.lines).foldl HunkScan.read scan).close.hunks =
      scan.close.hunks ++ hunks.map DiffHunk.hunk := by
  induction hunks generalizing i j scan with
  | nil => simp
  | cons h hunks ih =>
      obtain ⟨hfirst, hrest⟩ := List.forall_mem_cons.mp hedited
      have hscan := close_foldl_read_lines hheaded hfirst hclosed
      rw [List.flatMap_cons, List.foldl_append, ih hheaded.2.2 hrest (by rw [hscan]), hscan]
      simp

theorem UnifiedDiff.hunksOf_lines {old new : List Line} (d : UnifiedDiff old new) :
    hunksOf d.lines = d.hunks.map DiffHunk.hunk := by
  rw [hunksOf, UnifiedDiff.lines, List.foldl_append, foldl_read_preamble d.unmarked,
    hunks_foldl_read d.headed d.edited rfl]
  rfl

/-! ### The walk -/

theorem apply_keep (line : Line) (out rest : List Line) (index : Nat) :
    Cursor.apply ⟨out, index, line :: rest⟩ (editText (.keep line)) =
      .ok ⟨out ++ [line], index + 1, rest⟩ := by
  have hmarker := noNewline_editText (.keep line)
  simp only [editText] at hmarker ⊢
  simp [Cursor.apply, hmarker, Cursor.expect, Cursor.push, Except.map]

theorem apply_delete (line : Line) (out rest : List Line) (index : Nat) :
    Cursor.apply ⟨out, index, line :: rest⟩ (editText (.delete line)) =
      .ok ⟨out, index + 1, rest⟩ := by
  have hmarker := noNewline_editText (.delete line)
  simp only [editText] at hmarker ⊢
  simp [Cursor.apply, hmarker, Cursor.expect]

theorem apply_insert (line : Line) (cursor : Cursor) :
    cursor.apply (editText (.insert line)) = .ok (cursor.push line) := by
  have hmarker := noNewline_editText (.insert line)
  simp only [editText] at hmarker ⊢
  simp [Cursor.apply, hmarker]

/-- The lines of a hunk take the walk over its old lines and put out the new ones. -/
theorem foldlM_apply_edits (edits : List (Edit Line)) (out rest : List Line) (index : Nat) :
    (edits.map editText).foldlM Cursor.apply ⟨out, index, oldOfEdits edits ++ rest⟩ =
      .ok ⟨out ++ newOfEdits edits, index + (oldOfEdits edits).length, rest⟩ := by
  induction edits generalizing out index with
  | nil => simp [oldOfEdits, newOfEdits, pure, Except.pure]
  | cons e edits ih =>
      rw [List.map_cons, List.foldlM_cons]
      cases e with
      | keep line =>
          rw [oldOfEdits, newOfEdits, List.cons_append, apply_keep]
          refine (ih (out ++ [line]) (index + 1)).trans ?_
          rw [List.append_assoc, List.singleton_append, List.length_cons, Nat.add_assoc,
            Nat.add_comm 1]
      | delete line =>
          rw [oldOfEdits, newOfEdits, List.cons_append, apply_delete]
          refine (ih out (index + 1)).trans ?_
          rw [List.length_cons, Nat.add_assoc, Nat.add_comm 1]
      | insert line =>
          rw [oldOfEdits, newOfEdits, apply_insert]
          refine (ih (out ++ [line]) index).trans ?_
          rw [List.append_assoc, List.singleton_append]

/-- A hunk copies what is pending, except for the line over which it inserts. The index stays
behind by the line that is left over. -/
theorem applyHunk_eq {h : DiffHunk} {i index : Nat} {last : Option Line} (out rest : List Line)
    (hstart : h.start = rangeStart (i + h.change.kept.length) h.change.old.length)
    (hread : (Nat.toDigits 10 h.start).length ≤ 4300) (hindex : index + last.toList.length = i) :
    ∃ index', Cursor.applyHunk ⟨out, index, h.change.pending last ++ (h.change.old ++ rest)⟩ h.hunk =
        .ok ⟨out ++ h.change.copied last ++ h.change.new, index',
          (h.change.leftOver last).toList ++ rest⟩ ∧
      index' + (h.change.leftOver last).toList.length =
        i + h.change.kept.length + h.change.old.length := by
  have hlengths := congrArg List.length (h.change.copied_append_leftOver last)
  simp only [Change.pending, List.length_append] at hlengths
  have hcopied : h.start - 1 - index = (h.change.copied last).length := by
    rw [hstart, rangeStart]
    by_cases hempty : h.change.old = []
    · simp only [Change.copied, Change.pending, hempty, List.isEmpty_nil, List.length_nil, if_true,
        List.length_dropLast, List.length_append]
      omega
    · have hlength : h.change.old.length ≠ 0 := by simpa using hempty
      simp only [Change.copied, Change.pending, List.isEmpty_iff, hempty, hlength, if_false,
        List.length_append]
      omega
  have hcopy : Cursor.copyTo ⟨out, index, h.change.pending last ++ (h.change.old ++ rest)⟩
      (h.start - 1) = ⟨out ++ h.change.copied last, index + (h.change.copied last).length,
        h.change.old ++ ((h.change.leftOver last).toList ++ rest)⟩ := by
    rw [Cursor.copyTo]
    dsimp only
    rw [hcopied, ← h.change.copied_append_leftOver last, List.append_assoc, List.take_left,
      List.drop_left, h.change.leftOver_append_old]
  refine ⟨index + (h.change.copied last).length + h.change.old.length, ?_, by omega⟩
  have hdigits : intOfDigits h.hunk.start = .ok h.start := by
    rw [DiffHunk.hunk, intOfDigits_toDigits, if_neg (by omega)]
  rw [Cursor.applyHunk, hdigits]
  show h.hunk.lines.foldlM Cursor.apply (Cursor.copyTo _ (h.start - 1)) = _
  rw [hcopy]
  exact foldlM_apply_edits h.change.edits _ _ _

/-- Hunks with numbers that can be read go through, with insertions one line early. -/
theorem foldlM_applyHunk {hunks : List DiffHunk} {i j index : Nat} {last : Option Line}
    (out tail : List Line) (hheaded : Headed i j hunks)
    (hread : ∀ h ∈ hunks, (Nat.toDigits 10 h.start).length ≤ 4300)
    (hindex : index + last.toList.length = i) :
    ∃ cursor, (hunks.map DiffHunk.hunk).foldlM Cursor.applyHunk
          ⟨out, index, last.toList ++ oldOf (hunks.map (·.change)) tail⟩ = .ok cursor ∧
      cursor.out ++ cursor.rest = out ++ insertedEarly last (hunks.map (·.change)) tail := by
  induction hunks generalizing i j index last out with
  | nil => exact ⟨_, rfl, rfl⟩
  | cons h hunks ih =>
      obtain ⟨hfirst, hrest⟩ := List.forall_mem_cons.mp hread
      obtain ⟨index', happly, hindex'⟩ :=
        applyHunk_eq out (oldOf (hunks.map (·.change)) tail) hheaded.1 hfirst hindex
      obtain ⟨cursor, hwalk, hcursor⟩ :=
        ih (out ++ h.change.copied last ++ h.change.new) hheaded.2.2 hrest hindex'
      refine ⟨cursor, ?_, ?_⟩
      · rw [List.map_cons, List.map_cons, List.foldlM_cons, oldOf_cons, ← List.append_assoc]
        rw [Change.pending] at happly
        rw [happly]
        exact hwalk
      · rw [hcursor, List.map_cons, insertedEarly, List.append_assoc, List.append_assoc]

/-- Where the walk goes through, the numbers could be read. -/
theorem readable_of_foldlM {hunks : List DiffHunk} {cursor cursor' : Cursor}
    (h : (hunks.map DiffHunk.hunk).foldlM Cursor.applyHunk cursor = .ok cursor') :
    ∀ h ∈ hunks, (Nat.toDigits 10 h.start).length ≤ 4300 := by
  induction hunks generalizing cursor with
  | nil => simp
  | cons first hunks ih =>
      rw [List.map_cons, List.foldlM_cons] at h
      cases hfirst : cursor.applyHunk first.hunk with
      | error e =>
          rw [hfirst] at h
          cases h
      | ok next =>
          rw [hfirst] at h
          refine List.forall_mem_cons.mpr ⟨?_, ih h⟩
          by_contra hlong
          rw [Cursor.applyHunk, DiffHunk.hunk, intOfDigits_toDigits, if_pos (by omega)] at hfirst
          cases hfirst

def patchedText (original : String) (lines : List Line) : String :=
  if original.toList.getLast? = some '\n' ∧ (joinLines lines).toList.getLast? ≠ some '\n' then
    joinLines lines ++ "\n"
  else joinLines lines

theorem applyUnifiedPatch_eq (original patch : String) :
    applyUnifiedPatch original patch =
      (patchedLines original patch).map fun (lines, count) => (patchedText original lines, count) := by
  rw [applyUnifiedPatch]
  cases patchedLines original patch with
  | error e => rfl
  | ok result =>
      obtain ⟨lines, count⟩ := result
      show (if _ then _ else _) = Except.ok (patchedText original lines, count)
      rw [patchedText]
      split <;> rfl

/-! ### The text that is returned -/

theorem getLast?_textOf (lines : List Line) :
    (textOf lines).toList.getLast? = some '\n' ↔ lines ≠ [] := by
  rcases List.eq_nil_or_concat' lines with rfl | ⟨front, line, rfl⟩
  · simp [textOf]
  · simp [textOf, ← List.append_assoc]

theorem getLast?_joinLines_concat (front : List Line) {line : Line} (hline : Unbroken line) :
    (joinLines (front ++ [line])).toList.getLast? ≠ some '\n' ↔ line ≠ [] ∨ front = [] := by
  rw [joinLines_concat, String.toList_ofList]
  by_cases hempty : line = []
  · have hfront := getLast?_textOf front
    rw [textOf, String.toList_ofList] at hfront
    rw [hempty, List.append_nil, ne_eq, hfront]
    simp
  · rw [List.getLast?_append_of_ne_nil _ hempty]
    simp only [hempty, ne_eq, not_false_eq_true, true_or, iff_true]
    intro hlast
    have hbreak := hline '\n' (List.mem_of_getLast? hlast)
    cases hbreak

/-- A newline is added to a text without one if the original has one. -/
theorem patchedText_textOf (old lines : List Line) :
    patchedText (textOf old) lines =
      if old ≠ [] ∧ (joinLines lines).toList.getLast? ≠ some '\n' then joinLines lines ++ "\n"
      else joinLines lines := by
  rw [patchedText]
  simp only [getLast?_textOf]

theorem joinLines_concat_newline (front : List Line) (line : Line) :
    joinLines (front ++ [line]) ++ "\n" = textOf (front ++ [line]) := by
  rw [joinLines_concat, textOf, ← String.toList_inj]
  simp

/-- The last line is lost if it is empty, unless it is the only one and a newline was asked for. -/
theorem splitLines_patchedText_concat {old front : List Line} {line : Line}
    (hfront : ∀ l ∈ front, Unbroken l) (hline : Unbroken line) :
    splitLines (patchedText (textOf old) (front ++ [line])) =
      if line ≠ [] ∨ front = [] ∧ old ≠ [] then front ++ [line] else front := by
  have hall : ∀ l ∈ front ++ [line], Unbroken l := by
    intro l hl
    rcases List.mem_append.mp hl with hl | hl
    · exact hfront l hl
    · exact List.mem_singleton.mp hl ▸ hline
  have hjoined := splitLines_joinLines_concat hfront hline
  have hnewline := getLast?_joinLines_concat front hline
  rw [patchedText_textOf]
  by_cases hempty : line = []
  · subst hempty
    simp only [List.isEmpty_nil, if_true, List.append_nil] at hjoined
    by_cases hadded : front = [] ∧ old ≠ []
    · rw [if_pos ⟨hadded.2, hnewline.mpr (.inr hadded.1)⟩, if_pos (.inr hadded),
        joinLines_concat_newline, splitLines_textOf hall]
    · rw [if_neg (by rw [hnewline]; tauto), if_neg (by tauto), hjoined]
  · have hkept : line ≠ [] ∨ front = [] ∧ old ≠ [] := .inl hempty
    rw [if_pos hkept]
    split
    · rw [joinLines_concat_newline, splitLines_textOf hall]
    · rw [hjoined]
      simp [hempty]

/-- For lines that are as many as the new ones. -/
theorem splitLines_patchedText_iff (old : List Line) {new lines : List Line}
    (h : ∀ l ∈ lines, Unbroken l) (hlength : lines.length = new.length) :
    splitLines (patchedText (textOf old) lines) = new ↔
      lines = new ∧ (old ≠ [] → new ≠ []) ∧ (new.getLast? = some [] → new = [[]] ∧ old ≠ []) := by
  rcases List.eq_nil_or_concat' lines with rfl | ⟨front, line, rfl⟩
  · have hnew : new = [] := List.length_eq_zero_iff.mp hlength.symm
    subst hnew
    have hnone : (joinLines []).toList.getLast? ≠ some '\n' := by decide
    rw [patchedText_textOf]
    by_cases hold : old = []
    · rw [if_neg (by simp [hold])]
      simpa [hold] using show splitLines (joinLines []) = [] by decide
    · rw [if_pos ⟨hold, hnone⟩]
      simpa [hold] using show splitLines (joinLines [] ++ "\n") ≠ [] by decide
  · rw [splitLines_patchedText_concat (fun l hl => h l (List.mem_append_left _ hl))
      (h line (List.mem_append_right _ (List.mem_singleton_self _)))]
    by_cases hkept : line ≠ [] ∨ front = [] ∧ old ≠ []
    · rw [if_pos hkept]
      constructor
      · rintro rfl
        refine ⟨rfl, by simp, ?_⟩
        intro hlast
        have hempty : line = [] := by simpa using hlast
        rcases hkept with hline | ⟨hfront, hold⟩
        · exact absurd hempty hline
        · exact ⟨by rw [hfront, hempty]; rfl, hold⟩
      · intro hall
        exact hall.1
    · rw [if_neg hkept]
      constructor
      · intro heq
        have hshort := congrArg List.length heq
        rw [← hlength, List.length_append, List.length_singleton] at hshort
        omega
      · rintro ⟨heq, -, hended⟩
        have hempty : line = [] := by
          by_contra hline
          exact hkept (.inl hline)
        rw [← heq, hempty] at hended
        obtain ⟨hsingle, hold⟩ := hended (by simp)
        exact absurd (.inr ⟨by simpa using hsingle, hold⟩) hkept

/-! ### Patching with a diff -/

theorem mem_of_splitLinesFrom {line : Line} {c : Char} (hc : c ∈ line) {done : Line}
    {text : List Char} (h : line ∈ splitLinesFrom done text) : c ∈ done ∨ c ∈ text := by
  induction done, text using splitLinesFrom.induct with
  | case1 done hempty => simp [splitLinesFrom, hempty] at h
  | case2 done hempty =>
      rw [splitLinesFrom, if_neg hempty, List.mem_singleton] at h
      subst h
      exact .inl (List.mem_reverse.mp hc)
  | case3 done text ih =>
      rw [splitLinesFrom, List.mem_cons] at h
      rcases h with rfl | h
      · exact .inl (List.mem_reverse.mp hc)
      · rcases ih h with hnone | htext
        · cases hnone
        · exact .inr (by simp [htext])
  | case4 done d text hreturn hbreak ih =>
      rw [splitLinesFrom.eq_3 _ _ _ hreturn, if_pos hbreak, List.mem_cons] at h
      rcases h with rfl | h
      · exact .inl (List.mem_reverse.mp hc)
      · rcases ih h with hnone | htext
        · cases hnone
        · exact .inr (List.mem_cons_of_mem _ htext)
  | case5 done d text hreturn hbreak ih =>
      rw [splitLinesFrom.eq_3 _ _ _ hreturn, if_neg hbreak] at h
      rcases ih h with hdone | htext
      · rcases List.mem_cons.mp hdone with rfl | hdone
        · exact .inr List.mem_cons_self
        · exact .inl hdone
      · exact .inr (List.mem_cons_of_mem _ htext)

/-- A text with a character that is not white space is not empty when it is stripped. -/
theorem strip_ne_empty {text : String} {c : Char} (hc : c ∈ text.toList)
    (hspace : isSpaceCode c.toNat = false) : (strip (.text text)).codePoints.isEmpty = false := by
  have hkept : c ∈ text.toList.dropWhile fun c => isSpaceCode c.toNat := by
    rw [← List.takeWhile_append_dropWhile (p := fun c => isSpaceCode c.toNat)
      (l := text.toList)] at hc
    rcases List.mem_append.mp hc with htake | hdrop
    · have hall := List.mem_takeWhile_imp htake
      rw [hspace] at hall
      cases hall
    · exact hdrop
  simp only [strip, PyStr.codePoints, String.toList_ofList, List.isEmpty_map, List.isEmpty_reverse]
  rw [List.isEmpty_eq_false_iff, ne_eq, List.dropWhile_eq_nil_iff]
  intro hall
  have hone := hall c (List.mem_reverse.mpr hkept)
  rw [hspace] at hone
  cases hone

section

variable {old new : List Line} {patch : String}

/-- A diff that has hunks, with numbers that can be read, goes through. -/
theorem UnifiedDiff.patchedLines_eq (d : UnifiedDiff old new) (hold : ∀ l ∈ old, Unbroken l)
    (hpatch : splitLines patch = d.lines) (hsome : d.hunks ≠ [])
    (hread : ∀ h ∈ d.hunks, (Nat.toDigits 10 h.start).length ≤ 4300) :
    patchedLines (textOf old) patch =
      .ok (insertedEarly none (d.hunks.map (·.change)) d.tail, d.hunks.length) := by
  have hat : '@' ∈ patch.toList := by
    cases hhunks : d.hunks with
    | nil => exact absurd hhunks hsome
    | cons h hunks =>
        have hheaded := d.headed
        rw [hhunks] at hheaded
        have hline : h.header ∈ splitLines patch := by
          rw [hpatch, UnifiedDiff.lines, hhunks]
          simp [DiffHunk.lines]
        exact (mem_of_splitLinesFrom (mark_mem_header hheaded.2.1) hline).resolve_left List.not_mem_nil
  have hindex : 0 + (none : Option Line).toList.length = 0 := rfl
  obtain ⟨cursor, hwalk, hcursor⟩ := foldlM_applyHunk [] d.tail d.headed hread hindex
  rw [Option.toList_none, List.nil_append, d.old_eq] at hwalk
  rw [patchedLines, strip_ne_empty hat (by decide), hpatch, d.hunksOf_lines,
    splitLines_textOf hold]
  simp only [Bool.false_eq_true, if_false, List.isEmpty_map, List.isEmpty_iff, hsome, hwalk]
  show Except.ok (cursor.out ++ cursor.rest, _) = _
  rw [hcursor, List.nil_append, List.length_map]

theorem UnifiedDiff.readable_of_patchedLines (d : UnifiedDiff old new)
    (hpatch : splitLines patch = d.lines) {result : List Line × Nat} {original : String}
    (h : patchedLines original patch = .ok result) :
    d.hunks ≠ [] ∧ ∀ h ∈ d.hunks, (Nat.toDigits 10 h.start).length ≤ 4300 := by
  rw [patchedLines, hpatch, d.hunksOf_lines] at h
  split at h
  · cases h
  dsimp only at h
  split at h
  · cases h
  rename_i hhunks
  refine ⟨by simpa using hhunks, ?_⟩
  cases hwalk : (d.hunks.map DiffHunk.hunk).foldlM Cursor.applyHunk
      ⟨[], 0, splitLines original⟩ with
  | error e =>
      rw [hwalk] at h
      cases h
  | ok cursor => exact readable_of_foldlM hwalk

/-- When applying a diff yields its target. -/
structure Applicable (d : UnifiedDiff old new) : Prop where
  /-- There is something to apply. -/
  nonempty : d.hunks ≠ []
  /-- The interpreter reads the numbers of the headers. -/
  readable : ∀ h ∈ d.hunks, (Nat.toDigits 10 h.start).length ≤ 4300
  /-- A hunk without old lines inserts at the start of the file, or right after the old lines of
  another hunk, or inserts only copies of the line it comes after. -/
  placed : PassesEqual none (d.hunks.map (·.change))
  /-- Not everything is deleted. -/
  kept : old ≠ [] → new ≠ []
  /-- The last line is not empty, unless it is the only one. -/
  ended : new.getLast? = some [] → new = [[]] ∧ old ≠ []

/-- A diff in the unified format is applied and yields its target exactly if it is applicable. -/
theorem applyUnifiedPatch_iff (d : UnifiedDiff old new) (patch : String)
    (hold : ∀ l ∈ old, Unbroken l) (hnew : ∀ l ∈ new, Unbroken l)
    (hpatch : splitLines patch = d.lines) :
    (∃ text count, applyUnifiedPatch (textOf old) patch = .ok (text, count) ∧
      splitLines text = new) ↔ Applicable d := by
  have hperm := insertedEarly_perm none (d.hunks.map (·.change)) d.tail
  rw [Option.toList_none, List.nil_append, d.new_eq] at hperm
  have hplaced := insertedEarly_eq_iff none (d.hunks.map (·.change)) d.tail
  rw [Option.toList_none, List.nil_append, d.new_eq] at hplaced
  have htext := splitLines_patchedText_iff old (fun l hl => hnew l (hperm.subset hl))
    hperm.length_eq
  rw [hplaced] at htext
  rw [applyUnifiedPatch_eq]
  constructor
  · rintro ⟨text, count, happly, hlines⟩
    cases hpatched : patchedLines (textOf old) patch with
    | error e =>
        rw [hpatched] at happly
        cases happly
    | ok result =>
        obtain ⟨hsome, hread⟩ := d.readable_of_patchedLines hpatch hpatched
        rw [d.patchedLines_eq hold hpatch hsome hread] at happly
        cases happly
        obtain ⟨hpasses, hkept, hended⟩ := htext.mp hlines
        exact ⟨hsome, hread, hpasses, hkept, hended⟩
  · intro h
    rw [d.patchedLines_eq hold hpatch h.nonempty h.readable]
    exact ⟨_, _, rfl, htext.mpr ⟨h.placed, h.kept, h.ended⟩⟩

end

namespace Sample

/-- A line is inserted after the first of two, without context. -/
def insertion : UnifiedDiff [['a'], ['b']] [['a'], ['x'], ['b']] where
  preamble := ["--- a/notes".toList, "+++ b/notes".toList]
  hunks := [⟨⟨[['a']], [.insert ['x']]⟩, 1, "@@ -1,0 +2 @@".toList⟩]
  tail := [['b']]
  old_eq := rfl
  new_eq := rfl
  unmarked := by decide
  edited := by simp
  headed := ⟨rfl, .mk .full (.one rfl) [], trivial⟩

def insertionText : String := "--- a/notes\n+++ b/notes\n@@ -1,0 +2 @@\n+x\n"

theorem splitLines_insertionText : splitLines insertionText = insertion.lines := by
  decide +kernel

theorem unbroken : (∀ l ∈ [['a'], ['b']], Unbroken l) ∧ ∀ l ∈ [['a'], ['x'], ['b']], Unbroken l := by
  simp [Unbroken, isLineBreak]

end Sample

/-- The line is inserted before the line that the header names. -/
theorem insertion_misplaced :
    ∃ d : UnifiedDiff [['a'], ['b']] [['a'], ['x'], ['b']],
      splitLines Sample.insertionText = d.lines ∧
      applyUnifiedPatch (textOf [['a'], ['b']]) Sample.insertionText = .ok ("x\na\nb\n", 1) ∧
      ¬∃ text count, applyUnifiedPatch (textOf [['a'], ['b']]) Sample.insertionText =
        .ok (text, count) ∧ splitLines text = [['a'], ['x'], ['b']] := by
  have hrun : applyUnifiedPatch (textOf [['a'], ['b']]) Sample.insertionText =
      .ok ("x\na\nb\n", 1) := by
    decide +kernel
  refine ⟨Sample.insertion, Sample.splitLines_insertionText, hrun, ?_⟩
  rintro ⟨text, count, happly, hlines⟩
  rw [hrun] at happly
  cases happly
  revert hlines
  decide +kernel

theorem insertion_applicable_iff :
    (∃ text count, applyUnifiedPatch (textOf [['a'], ['b']]) Sample.insertionText =
      .ok (text, count) ∧ splitLines text = [['a'], ['x'], ['b']]) ↔ Applicable Sample.insertion :=
  applyUnifiedPatch_iff Sample.insertion Sample.insertionText Sample.unbroken.1 Sample.unbroken.2
    Sample.splitLines_insertionText

end Kin.Artifacts
