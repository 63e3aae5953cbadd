import Kin.Artifacts.HunkPlacement
import Kin.Artifacts.WriteAuthority

/-!
What `apply_unified_patch` leaves of the lines it does not touch. A text is split at every line
boundary that `str.splitlines` knows and joined with newlines, and whether the result ends with one
is guessed from the original. The intended result is followed beside the walk, with the terminator
that every line is to have.
-/

namespace Kin.Artifacts

open Kin.Py Kin.Lib Kin.Schemas Kin.Session Kin.Storage

/-! ### Lines with their terminators -/

structure TextLine where
  content : Line
  terminator : List Char
  deriving DecidableEq

/-- `str.splitlines(keepends=True)`, after the characters `line` (the last first) of an unfinished
line. -/
def textLinesFrom : Line → List Char → List TextLine
  | line, [] => if line.isEmpty then [] else [⟨line.reverse, []⟩]
  | line, '\r' :: '\n' :: text => ⟨line.reverse, ['\r', '\n']⟩ :: textLinesFrom [] text
  | line, c :: text =>
      if isLineBreak c then ⟨line.reverse, [c]⟩ :: textLinesFrom [] text
      else textLinesFrom (c :: line) text

def textLines (text : String) : List TextLine := textLinesFrom [] text.toList

theorem content_textLinesFrom (line : Line) (text : List Char) :
    (textLinesFrom line text).map (·.content) = splitLinesFrom line text := by
  induction line, text using textLinesFrom.induct with
  | case1 line hempty => rw [textLinesFrom, splitLinesFrom, if_pos hempty, if_pos hempty]; rfl
  | case2 line hempty => rw [textLinesFrom, splitLinesFrom, if_neg hempty, if_neg hempty]; rfl
  | case3 line text ih => rw [textLinesFrom, splitLinesFrom, List.map_cons, ih]
  | case4 line c text hreturn hbreak ih =>
      rw [textLinesFrom.eq_3 _ _ _ hreturn, splitLinesFrom.eq_3 _ _ _ hreturn, if_pos hbreak,
        if_pos hbreak, List.map_cons, ih]
  | case5 line c text hreturn hbreak ih =>
      rw [textLinesFrom.eq_3 _ _ _ hreturn, splitLinesFrom.eq_3 _ _ _ hreturn, if_neg hbreak,
        if_neg hbreak, ih]

theorem content_textLines (text : String) :
    (textLines text).map (·.content) = splitLines text :=
  content_textLinesFrom [] text.toList

theorem flatMap_textLinesFrom (line : Line) (text : List Char) :
    (textLinesFrom line text).flatMap (fun l => l.content ++ l.terminator) =
      line.reverse ++ text := by
  induction line, text using textLinesFrom.induct with
  | case1 line hempty =>
      have hline : line = [] := List.isEmpty_iff.mp hempty
      rw [textLinesFrom, if_pos hempty, hline]
      rfl
  | case2 line hempty => simp [textLinesFrom, hempty]
  | case3 line text ih => simp [textLinesFrom, ih]
  | case4 line c text hreturn hbreak ih =>
      rw [textLinesFrom.eq_3 _ _ _ hreturn, if_pos hbreak, List.flatMap_cons, ih]
      simp
  | case5 line c text hreturn hbreak ih =>
      rw [textLinesFrom.eq_3 _ _ _ hreturn, if_neg hbreak, ih]
      simp

theorem flatMap_textLines (text : String) :
    (textLines text).flatMap (fun l => l.content ++ l.terminator) = text.toList :=
  flatMap_textLinesFrom [] text.toList

theorem textLinesFrom_append {line : Line} (h : Unbroken line) (done : Line) (text : List Char) :
    textLinesFrom done (line ++ text) = textLinesFrom (line.reverse ++ done) text := by
  induction line generalizing done with
  | nil => rfl
  | cons c line ih =>
      obtain ⟨hc, hline⟩ := List.forall_mem_cons.mp h
      have hreturn : c ≠ '\r' := by
        rintro rfl
        cases hc
      rw [List.cons_append, textLinesFrom.eq_3 _ _ _ (fun _ heq => absurd heq hreturn),
        if_neg (by simp [hc]), ih hline, List.reverse_cons, List.append_assoc,
        List.singleton_append]

theorem textLinesFrom_closed {lines : List Line} (h : ∀ line ∈ lines, Unbroken line)
    (text : List Char) :
    textLinesFrom [] (lines.flatMap (fun line => line ++ ['\n']) ++ text) =
      lines.map (fun line => ⟨line, ['\n']⟩) ++ textLinesFrom [] text := by
  induction lines with
  | nil => rfl
  | cons line lines ih =>
      obtain ⟨hline, hlines⟩ := List.forall_mem_cons.mp h
      rw [List.flatMap_cons, List.append_assoc, List.append_assoc, textLinesFrom_append hline,
        List.singleton_append, textLinesFrom.eq_3 _ _ _ (by simp), if_pos (by decide), ih hlines]
      simp

theorem textLinesFrom_unbroken {line : Line} (h : Unbroken line) :
    textLinesFrom [] line = if line = [] then [] else [⟨line, []⟩] := by
  have happend := textLinesFrom_append h [] []
  rw [List.append_nil, List.append_nil] at happend
  rw [happend, textLinesFrom]
  simp

/-- No line that `str.splitlines` returns can be split again. -/
theorem unbroken_of_splitLinesFrom {done : Line} (hdone : Unbroken done) {text : List Char}
    {line : Line} (h : line ∈ splitLinesFrom done text) : Unbroken line := by
  have hreverse : ∀ {done : Line}, Unbroken done → Unbroken done.reverse := by
    intro done hdone c hc
    exact hdone c (List.mem_reverse.mp hc)
  induction done, text using splitLinesFrom.induct with
  | case1 done hempty => simp [splitLinesFrom, hempty] at h
  | case2 done hempty =>
      rw [splitLinesFrom, if_neg hempty, List.mem_singleton] at h
      rw [h]
      exact hreverse hdone
  | case3 done text ih =>
      rw [splitLinesFrom, List.mem_cons] at h
      rcases h with rfl | h
      · exact hreverse hdone
      · exact ih (fun c hc => absurd hc List.not_mem_nil) h
  | case4 done c text hreturn hbreak ih =>
      rw [splitLinesFrom.eq_3 _ _ _ hreturn, if_pos hbreak, List.mem_cons] at h
      rcases h with rfl | h
      · exact hreverse hdone
      · exact ih (fun c hc => absurd hc List.not_mem_nil) h
  | case5 done c text hreturn hbreak ih =>
      rw [splitLinesFrom.eq_3 _ _ _ hreturn, if_neg hbreak] at h
      exact ih (List.forall_mem_cons.mpr ⟨by simpa using hbreak, hdone⟩) h

theorem unbroken_of_splitLines {text : String} {line : Line} (h : line ∈ splitLines text) :
    Unbroken line :=
  unbroken_of_splitLinesFrom (fun _ hc => absurd hc List.not_mem_nil) h

/-! ### The intended result -/

inductive ResultLine
  | kept (line : TextLine)
  | added (content : Line) (terminated : Bool)
  deriving DecidableEq

namespace ResultLine

def content : ResultLine → Line
  | .kept line => line.content
  | .added content _ => content

/-- A kept line keeps its terminator; an added one has a newline unless the patch says that there
is none. -/
def terminator : ResultLine → List Char
  | .kept line => line.terminator
  | .added _ terminated => if terminated then ['\n'] else []

/-- `\ No newline at end of file`, after the line. -/
def unterminate : ResultLine → ResultLine
  | .kept line => .kept line
  | .added content _ => .added content false

theorem content_unterminate (line : ResultLine) : line.unterminate.content = line.content := by
  cases line <;> rfl

end ResultLine

/-- The walk over lines with their terminators. `adding` says that the line before is one that the
hunk adds. -/
structure Merge where
  out : List ResultLine
  index : Nat
  rest : List TextLine
  adding : Bool

namespace Merge

def cursor (m : Merge) : Cursor := ⟨m.out.map (·.content), m.index, m.rest.map (·.content)⟩

def copyTo (m : Merge) (target : Nat) : Merge :=
  let kept := m.rest.take (target - m.index)
  { out := m.out ++ kept.map .kept, index := m.index + kept.length
    rest := m.rest.drop (target - m.index), adding := false }

def apply (m : Merge) : Line → Merge
  | ' ' :: _ =>
      { out := m.out ++ (m.rest.take 1).map .kept, index := m.index + 1, rest := m.rest.drop 1
        adding := false }
  | '-' :: _ => { m with index := m.index + 1, rest := m.rest.drop 1, adding := false }
  | '+' :: content => { m with out := m.out ++ [.added content true], adding := true }
  | line =>
      if m.adding && noNewline line then
        { m with out := m.out.dropLast ++ m.out.getLast?.toList.map ResultLine.unterminate
                 adding := false }
      else { m with adding := false }

def applyHunk (m : Merge) (h : DeclaredHunk) : Merge :=
  h.lines.foldl apply (m.copyTo (h.start - 1))

def lines (m : Merge) : List ResultLine := m.out ++ m.rest.map .kept

end Merge

def intended (text patch : String) : List ResultLine :=
  ((declaredHunks patch).foldl Merge.applyHunk ⟨[], 0, textLines text, false⟩).lines

theorem cursor_copyTo (m : Merge) (target : Nat) :
    (m.copyTo target).cursor = m.cursor.copyTo target := by
  simp [Merge.copyTo, Merge.cursor, Cursor.copyTo, ResultLine.content, List.map_take,
    List.map_drop, Function.comp_def]

theorem content_unterminate_last (out : List ResultLine) :
    (out.dropLast ++ out.getLast?.toList.map ResultLine.unterminate).map (·.content) =
      out.map (·.content) := by
  rcases List.eq_nil_or_concat' out with rfl | ⟨front, line, rfl⟩
  · rfl
  · simp [ResultLine.content_unterminate]

theorem expect_ok {what : String} {out rest : List Line} {index : Nat} {content : Line}
    {cursor : Cursor} (h : Cursor.expect ⟨out, index, rest⟩ what content = .ok cursor) :
    ∃ tail, rest = content :: tail ∧ cursor = ⟨out, index + 1, tail⟩ := by
  cases rest with
  | nil => cases h
  | cons line tail =>
      by_cases hline : line = content
      · subst hline
        rw [expect_cons] at h
        cases h
        exact ⟨tail, rfl, rfl⟩
      · rw [Cursor.expect] at h
        simp only [hline, if_false, reduceCtorEq] at h

/-- A line of a hunk does the same to both walks. -/
theorem cursor_apply {m : Merge} {line : Line} {cursor : Cursor}
    (h : m.cursor.apply line = .ok cursor) : (m.apply line).cursor = cursor := by
  obtain ⟨out, index, rest, adding⟩ := m
  rcases hunkLine_cases line with ⟨content, rfl⟩ | ⟨content, rfl⟩ | ⟨content, rfl⟩ | ⟨hold, hnew⟩
  · rw [apply_context] at h
    cases hexpect : (Merge.cursor ⟨out, index, rest, adding⟩).expect "context" content with
    | error e =>
        rw [hexpect] at h
        cases h
    | ok next =>
        rw [hexpect] at h
        cases h
        obtain ⟨tail, hrest, rfl⟩ := expect_ok hexpect
        cases rest with
        | nil => cases hrest
        | cons first rest =>
            obtain ⟨hfirst, rfl⟩ := List.cons.inj hrest
            simp [Merge.apply, Merge.cursor, Cursor.push, ResultLine.content, hfirst]
  · obtain ⟨tail, hrest, rfl⟩ := expect_ok h
    cases rest with
    | nil => cases hrest
    | cons first rest =>
        obtain ⟨-, rfl⟩ := List.cons.inj hrest
        rfl
  · cases h
    simp [Merge.apply, Merge.cursor, Cursor.push, ResultLine.content]
  · rw [apply_other hold hnew] at h
    cases h
    unfold Merge.apply
    split
    · cases hold
    · cases hold
    · cases hnew
    · split
      · simp only [Merge.cursor, content_unterminate_last]
      · rfl

theorem cursor_foldl_apply {lines : List Line} {m : Merge} {cursor : Cursor}
    (h : lines.foldlM Cursor.apply m.cursor = .ok cursor) :
    (lines.foldl Merge.apply m).cursor = cursor := by
  induction lines generalizing m with
  | nil =>
      cases h
      rfl
  | cons line lines ih =>
      rw [List.foldlM_cons] at h
      obtain ⟨next, hnext, hrest⟩ := bind_ok h
      rw [List.foldl_cons]
      rw [← cursor_apply hnext] at hrest
      exact ih hrest

theorem cursor_applyHunk {h : DeclaredHunk} {m : Merge} {cursor : Cursor}
    (happly : m.cursor.applyHunk h.hunk = .ok cursor) : (m.applyHunk h).cursor = cursor := by
  obtain ⟨start, hstart, hlines⟩ := bind_ok happly
  rw [intOfDigits_eq] at hstart
  split at hstart
  · cases hstart
  · cases hstart
    rw [← cursor_copyTo] at hlines
    exact cursor_foldl_apply hlines

theorem cursor_foldl_applyHunk {hunks : List DeclaredHunk} {m : Merge} {cursor : Cursor}
    (h : (hunks.map DeclaredHunk.hunk).foldlM Cursor.applyHunk m.cursor = .ok cursor) :
    (hunks.foldl Merge.applyHunk m).cursor = cursor := by
  induction hunks generalizing m with
  | nil =>
      cases h
      rfl
  | cons first hunks ih =>
      rw [List.map_cons, List.foldlM_cons] at h
      obtain ⟨next, hnext, hrest⟩ := bind_ok h
      rw [List.foldl_cons]
      rw [← cursor_applyHunk hnext] at hrest
      exact ih hrest

theorem Merge.content_lines (m : Merge) :
    m.lines.map (·.content) = m.cursor.out ++ m.cursor.rest := by
  simp [Merge.lines, Merge.cursor, ResultLine.content, Function.comp_def]

/-- The lines that are joined are those of the intended result, which has the terminators of a
text with the same lines. -/
theorem content_intended {text original patch : String} {lines : List Line} {count : Nat}
    (hsame : splitLines text = splitLines original)
    (h : patchedLines original patch = .ok (lines, count)) :
    (intended text patch).map (·.content) = lines := by
  have hhunks : declaredHunks patch ≠ [] := by
    intro hnone
    obtain ⟨message, hmessage⟩ := patchedLines_of_no_hunks original hnone
    rw [hmessage] at h
    cases h
  rw [patchedLines_of_hunks hhunks, ← hsame, ← content_textLines] at h
  cases hwalk : ((declaredHunks patch).map DeclaredHunk.hunk).foldlM Cursor.applyHunk
      ⟨[], 0, (textLines text).map (·.content)⟩ with
  | error e =>
      rw [hwalk] at h
      cases h
  | ok cursor =>
      rw [hwalk] at h
      cases h
      have hcursor := cursor_foldl_applyHunk (m := ⟨[], 0, textLines text, false⟩) hwalk
      rw [intended, Merge.content_lines, hcursor]

/-! ### The text of the result -/

/-- `text.endswith("\n")`. -/
def EndsWithNewline (text : List Char) : Prop := text.getLast? = some '\n'

instance (text : List Char) : Decidable (EndsWithNewline text) :=
  inferInstanceAs (Decidable (text.getLast? = some '\n'))

/-- The terminator of the last line of a result; a text ends with it as the original does. -/
def lastTerminator (original : String) : List Char :=
  if EndsWithNewline original.toList then ['\n'] else []

theorem patchedText_concat (original : String) (front : List Line) {last : Line}
    (hlast : Unbroken last) :
    patchedText original (front ++ [last]) =
      if EndsWithNewline original.toList ∧ (last ≠ [] ∨ front = []) then
        joinLines (front ++ [last]) ++ "\n"
      else joinLines (front ++ [last]) :=
  if_congr (and_congr_right fun _ => getLast?_joinLines_concat front hlast) rfl rfl

theorem textLines_patchedText (original : String) {front : List Line} {last : Line}
    (hfront : ∀ line ∈ front, Unbroken line) (hlast : Unbroken last) :
    textLines (patchedText original (front ++ [last])) =
      front.map (fun line => ⟨line, ['\n']⟩) ++
        if last ≠ [] ∨ front = [] ∧ EndsWithNewline original.toList then
          [⟨last, lastTerminator original⟩]
        else [] := by
  have hopen : textLines (joinLines (front ++ [last])) =
      front.map (fun line => ⟨line, ['\n']⟩) ++ if last = [] then [] else [⟨last, []⟩] := by
    rw [joinLines_concat, textLines, String.toList_ofList, textLinesFrom_closed hfront,
      textLinesFrom_unbroken hlast]
  have hclosed : textLines (joinLines (front ++ [last]) ++ "\n") =
      front.map (fun line => ⟨line, ['\n']⟩) ++ [⟨last, ['\n']⟩] := by
    have hall : ∀ line ∈ front ++ [last], Unbroken line := by
      intro line hline
      rcases List.mem_append.mp hline with hline | hline
      · exact hfront line hline
      · exact List.mem_singleton.mp hline ▸ hlast
    have hlines := textLinesFrom_closed hall []
    rw [List.append_nil] at hlines
    rw [joinLines_concat_newline, textOf, textLines, String.toList_ofList, hlines]
    simp [textLinesFrom]
  rw [patchedText_concat original front hlast, lastTerminator]
  by_cases hended : EndsWithNewline original.toList
  · by_cases hkept : last ≠ [] ∨ front = []
    · rw [if_pos ⟨hended, hkept⟩, hclosed, if_pos hended, if_pos (by tauto)]
    · have hempty : last = [] := by tauto
      rw [if_neg (fun h => hkept h.2), hopen, if_pos hempty, if_neg (by tauto)]
  · rw [if_neg (fun h => hended h.1), hopen, if_neg hended]
    by_cases hempty : last = []
    · rw [if_pos hempty, if_neg (by tauto)]
    · rw [if_neg hempty, if_pos (.inl hempty)]

theorem endsWithNewline_append_newline (text : String) : EndsWithNewline (text ++ "\n").toList := by
  simp [EndsWithNewline]

theorem endsWithNewline_patchedText (original : String) (front : List Line) {last : Line}
    (hlast : Unbroken last) :
    EndsWithNewline (patchedText original (front ++ [last])).toList ↔
      (last ≠ [] ∨ front = [] → EndsWithNewline original.toList) := by
  have hnewline := getLast?_joinLines_concat front hlast
  rw [patchedText_concat original front hlast]
  by_cases hkept : last ≠ [] ∨ front = []
  · by_cases hended : EndsWithNewline original.toList
    · rw [if_pos ⟨hended, hkept⟩]
      exact iff_of_true (endsWithNewline_append_newline _) fun _ => hended
    · rw [if_neg (fun h => hended h.1)]
      simp only [hkept, hended, imp_false, not_true_eq_false, iff_false]
      exact hnewline.mpr hkept
  · have hjoined : EndsWithNewline (joinLines (front ++ [last])).toList :=
      not_not.mp (hnewline.not.mpr hkept)
    rw [if_neg (fun h => hkept h.2)]
    exact iff_of_true hjoined fun h => absurd h hkept

/-- Every kept line of the intended result is at its place in the text, and the text ends as the
intended result does. -/
structure Preserved (lines : List ResultLine) (text : String) : Prop where
  kept : ∀ (i : Nat) (line : TextLine), lines[i]? = some (.kept line) →
    (textLines text)[i]? = some line
  ended : EndsWithNewline text.toList ↔
    ∃ last, lines.getLast? = some last ∧ EndsWithNewline last.terminator

/-- What the join and the guess of the last newline leave as they are. `ended` says that the
original ends with a newline. -/
structure Preservable (ended : Prop) (lines : List ResultLine) : Prop where
  /-- A kept line that others follow ends with a newline and with nothing else. -/
  front : ∀ line, ResultLine.kept line ∈ lines.dropLast → line.terminator = ['\n']
  /-- A kept last line ends as the original does, and is not empty where others precede it. -/
  kept : ∀ line, lines.getLast? = some (.kept line) →
    (ended ∧ line.terminator = ['\n'] ∨ ¬ended ∧ line.terminator = []) ∧
      (line.content = [] → lines.length = 1 ∧ ended)
  /-- An added last line ends as the original does; an empty one that others precede is closed. -/
  added : ∀ content terminated, lines.getLast? = some (.added content terminated) →
    if content = [] ∧ lines.length ≠ 1 then terminated = true else (ended ↔ terminated = true)
  /-- Where nothing is left, the original does not end with a newline. -/
  nonempty : ended → lines ≠ []

theorem preserved_nil (original : String) :
    Preserved [] (patchedText original []) ↔ Preservable (EndsWithNewline original.toList) [] := by
  have htext : EndsWithNewline (patchedText original []).toList ↔
      EndsWithNewline original.toList := by
    have hempty : (joinLines []).toList = [] := by decide
    rw [patchedText, hempty]
    by_cases hended : EndsWithNewline original.toList
    · rw [if_pos ⟨hended, by simp⟩]
      exact iff_of_true (endsWithNewline_append_newline _) hended
    · rw [if_neg (fun h => hended h.1), hempty]
      exact iff_of_false (by simp [EndsWithNewline]) hended
  constructor
  · intro h
    have hended := h.ended
    refine ⟨by simp, by simp, by simp, ?_⟩
    intro horiginal
    obtain ⟨last, hlast, -⟩ := hended.mp (htext.mpr horiginal)
    cases hlast
  · intro h
    refine ⟨by simp, ?_⟩
    rw [htext]
    constructor
    · intro horiginal
      exact absurd rfl (h.nonempty horiginal)
    · rintro ⟨last, hlast, -⟩
      cases hlast

/-- Every kept line is at its place where all lines but the last are closed with newlines. -/
theorem kept_concat (front : List ResultLine) (last : ResultLine) (tail : List TextLine) :
    (∀ (i : Nat) (line : TextLine), (front ++ [last])[i]? = some (.kept line) →
        (front.map (fun line => ⟨line.content, ['\n']⟩) ++ tail)[i]? = some line) ↔
      (∀ line, ResultLine.kept line ∈ front → line.terminator = ['\n']) ∧
        ∀ line, last = .kept line → tail.head? = some line := by
  have hlength : (front.map fun line => (⟨line.content, ['\n']⟩ : TextLine)).length =
      front.length := List.length_map _
  constructor
  · intro h
    refine ⟨?_, ?_⟩
    · intro line hline
      obtain ⟨i, hi, hget⟩ := List.mem_iff_getElem.mp hline
      have hline := h i line (by
        rw [List.getElem?_append_left hi, List.getElem?_eq_getElem hi, hget])
      rw [List.getElem?_append_left (by omega), List.getElem?_map, List.getElem?_eq_getElem hi,
        hget] at hline
      rw [← Option.some.inj hline]
    · rintro line rfl
      have hline := h front.length line (by rw [List.getElem?_concat_length])
      rw [List.getElem?_append_right (by omega), hlength, Nat.sub_self] at hline
      rw [List.head?_eq_getElem?, hline]
  · rintro ⟨hfront, hlast⟩ i line hline
    rcases Nat.lt_or_ge i front.length with hi | hi
    · rw [List.getElem?_append_left hi] at hline
      have hclosed := hfront line (List.mem_of_getElem? hline)
      rw [List.getElem?_append_left (by omega), List.getElem?_map, hline]
      show some (⟨line.content, ['\n']⟩ : TextLine) = some line
      rw [← hclosed]
    · rw [List.getElem?_append_right hi, List.getElem?_singleton] at hline
      split at hline
      · rename_i hzero
        rw [List.getElem?_append_right (by omega), hlength, hzero, ← List.head?_eq_getElem?]
        exact hlast line (Option.some.inj hline)
      · cases hline

theorem kept_last_iff (front : List ResultLine) (line : TextLine) (ended : Prop)
    [Decidable ended] :
    ((if line.content ≠ [] ∨ front = [] ∧ ended then
        [(⟨line.content, if ended then ['\n'] else []⟩ : TextLine)] else []).head? = some line ∧
      ((line.content ≠ [] ∨ front = [] → ended) ↔ EndsWithNewline line.terminator)) ↔
    (ended ∧ line.terminator = ['\n'] ∨ ¬ended ∧ line.terminator = []) ∧
      (line.content = [] → front = [] ∧ ended) := by
  obtain ⟨content, terminator⟩ := line
  by_cases hkept : content ≠ [] ∨ front = [] ∧ ended
  · rw [if_pos hkept, List.head?_singleton]
    by_cases hended : ended
    · have hcontent : content = [] → front = [] := by tauto
      simp only [hended, if_true, Option.some.injEq, TextLine.mk.injEq, true_and, not_true_eq_false,
        false_and, or_false, and_true, implies_true, true_iff]
      constructor
      · rintro ⟨rfl, -⟩
        exact ⟨rfl, hcontent⟩
      · rintro ⟨rfl, -⟩
        exact ⟨rfl, rfl⟩
    · have hcontent : content ≠ [] := by tauto
      simp only [hended, if_false, Option.some.injEq, TextLine.mk.injEq, true_and, false_and,
        not_false_eq_true, false_or, hcontent, ne_eq, true_or, true_implies, false_implies,
        and_true, false_iff]
      constructor
      · rintro ⟨rfl, -⟩
        rfl
      · rintro rfl
        exact ⟨rfl, by simp [EndsWithNewline]⟩
  · have hcontent : content = [] := by tauto
    rw [if_neg hkept]
    simp only [List.head?_nil, reduceCtorEq, false_and, false_iff]
    rintro ⟨-, hsingle⟩
    exact hkept (.inr (hsingle hcontent))

theorem endsWithNewline_terminator_added (content : Line) (terminated : Bool) :
    EndsWithNewline (ResultLine.added content terminated).terminator ↔ terminated = true := by
  cases terminated <;> simp [ResultLine.terminator, EndsWithNewline]

theorem added_last_iff (front : List ResultLine) (content : Line) (terminated : Bool)
    (ended : Prop) :
    ((content ≠ [] ∨ front = [] → ended) ↔ terminated = true) ↔
      if content = [] ∧ front ≠ [] then terminated = true else (ended ↔ terminated = true) := by
  by_cases hempty : content = [] ∧ front ≠ []
  · have hopen : ¬(content ≠ [] ∨ front = []) := by tauto
    rw [if_pos hempty]
    simp only [hopen, false_implies, true_iff]
  · have hclosed : content ≠ [] ∨ front = [] := by tauto
    rw [if_neg hempty]
    simp only [hclosed, true_implies]

/-- What preserving a result asks of the lines before the last, of a kept last line, and of
the end of the text. -/
theorem preserved_concat_parts (original : String) {front : List ResultLine} {last : ResultLine}
    (hfront : ∀ line ∈ front, Unbroken line.content) (hlast : Unbroken last.content) :
    Preserved (front ++ [last])
      (patchedText original (front.map (·.content) ++ [last.content])) ↔
      (∀ line, ResultLine.kept line ∈ front → line.terminator = ['\n']) ∧
        (∀ line, last = .kept line → (if last.content ≠ [] ∨
          front.map (·.content) = [] ∧ EndsWithNewline original.toList then
            [(⟨last.content, lastTerminator original⟩ : TextLine)] else []).head? = some line) ∧
        ((last.content ≠ [] ∨ front.map (·.content) = [] → EndsWithNewline original.toList) ↔
          EndsWithNewline last.terminator) := by
  have hfronts : ∀ line ∈ front.map (·.content), Unbroken line := by simpa using hfront
  have hlines := textLines_patchedText original hfronts hlast
  have hended := endsWithNewline_patchedText original (front.map (·.content)) hlast
  rw [List.map_map] at hlines
  rw [← and_assoc, ← kept_concat, ← hended]
  constructor
  · intro h
    refine ⟨?_, ?_⟩
    · have hkept := h.kept
      rw [hlines] at hkept
      exact hkept
    · simpa using h.ended
  · rintro ⟨hkept, hend⟩
    refine ⟨?_, by simpa using hend⟩
    rw [hlines]
    exact hkept

theorem preserved_concat (original : String) {front : List ResultLine} {last : ResultLine}
    (hfront : ∀ line ∈ front, Unbroken line.content) (hlast : Unbroken last.content) :
    Preserved (front ++ [last]) (patchedText original ((front ++ [last]).map (·.content))) ↔
      Preservable (EndsWithNewline original.toList) (front ++ [last]) := by
  rw [List.map_append, List.map_singleton, preserved_concat_parts original hfront hlast]
  cases last with
  | kept line =>
      have hkept := kept_last_iff front line (EndsWithNewline original.toList)
      constructor
      · rintro ⟨hfront, hlast, hend⟩
        have hfits := hkept.mp ⟨by simpa [lastTerminator, ResultLine.content] using hlast line rfl,
          by simpa [ResultLine.content, ResultLine.terminator] using hend⟩
        exact ⟨by simpa using hfront, by simpa using hfits, by simp, by simp⟩
      · intro h
        obtain ⟨hlast, hend⟩ := hkept.mpr (by simpa using h.kept line (by simp))
        refine ⟨by simpa using h.front, ?_,
          by simpa [ResultLine.content, ResultLine.terminator] using hend⟩
        rintro _ ⟨rfl⟩
        simpa [lastTerminator, ResultLine.content] using hlast
  | added content terminated =>
      have hadded := added_last_iff front content terminated (EndsWithNewline original.toList)
      constructor
      · rintro ⟨hfront, -, hend⟩
        have hfits := hadded.mp (by
          simpa [ResultLine.content, endsWithNewline_terminator_added] using hend)
        exact ⟨by simpa using hfront, by simp, by simpa using hfits, by simp⟩
      · intro h
        have hend := hadded.mpr (by simpa using h.added content terminated (by simp))
        exact ⟨by simpa using h.front, by simp,
          by simpa [ResultLine.content, endsWithNewline_terminator_added] using hend⟩

theorem preserved_patchedText_iff (original : String) {lines : List ResultLine}
    (h : ∀ line ∈ lines, Unbroken line.content) :
    Preserved lines (patchedText original (lines.map (·.content))) ↔
      Preservable (EndsWithNewline original.toList) lines := by
  rcases List.eq_nil_or_concat' lines with rfl | ⟨front, last, rfl⟩
  · exact preserved_nil original
  · exact preserved_concat original
      (fun line hline => h line (List.mem_append_left _ hline))
      (h last (List.mem_append_right _ (List.mem_singleton_self _)))

/-! ### Applying -/

/-- The result of a patch leaves the untouched lines of a text with the same lines as they are
exactly if they can be preserved. -/
theorem preserved_of_applied {raw original patch text : String} {count : Nat}
    (hsame : splitLines raw = splitLines original)
    (h : applyUnifiedPatch original patch = .ok (text, count)) :
    Preserved (intended raw patch) text ↔
      Preservable (EndsWithNewline original.toList) (intended raw patch) := by
  rw [applyUnifiedPatch_eq] at h
  cases hpatched : patchedLines original patch with
  | error e =>
      rw [hpatched] at h
      cases h
  | ok result =>
      obtain ⟨lines, count'⟩ := result
      rw [hpatched] at h
      cases h
      have hcontent := content_intended hsame hpatched
      have hunbroken : ∀ line ∈ intended raw patch, Unbroken line.content := by
        intro line hline
        have hmem : line.content ∈ lines := by
          rw [← hcontent]
          exact List.mem_map_of_mem hline
        rcases line_of_patchedLines hpatched _ hmem with hold | hadded
        · exact unbroken_of_splitLines hold
        · exact (List.forall_mem_cons.mp (unbroken_of_splitLines hadded)).2
      rw [← hcontent]
      exact preserved_patchedText_iff original hunbroken

/-- Reading a file with universal newlines leaves its lines as they are. -/
theorem splitLinesFrom_universalNewlines (done : Line) (text : List Char) :
    splitLinesFrom done (universalNewlines text) = splitLinesFrom done text := by
  have hnewline : ∀ (done : Line) (text : List Char),
      splitLinesFrom done ('\n' :: text) = done.reverse :: splitLinesFrom [] text := by
    intro done text
    rw [splitLinesFrom.eq_3 _ _ _ (by simp), if_pos (by decide)]
  induction text using universalNewlines.induct generalizing done with
  | case1 text ih => rw [universalNewlines, hnewline, splitLinesFrom, ih]
  | case2 text hpair ih =>
      rw [universalNewlines.eq_2 _ hpair, hnewline,
        splitLinesFrom.eq_3 _ _ _ (fun rest _ heq => hpair rest heq), if_pos (by decide), ih]
  | case3 c text hpair hreturn ih =>
      have hc : c ≠ '\r' := fun heq => hreturn heq
      rw [universalNewlines.eq_3 _ _ hpair hreturn,
        splitLinesFrom.eq_3 _ _ _ (fun _ heq => absurd heq hc),
        splitLinesFrom.eq_3 _ _ _ (fun _ heq => absurd heq hc), ih, ih]
  | case4 => rfl

def Disk.targetText (disk : Disk) (target : Path) : Except WorkspaceError String :=
  if disk.isFile target then do
    let bytes ← disk.read target
    match decodeUtf8Bytes bytes with
    | some text => .ok text
    | none => .error .unicodeDecodeError
  else .ok ""

/-- A patch is applied to the text of the file as universal newlines leave it. -/
theorem originalContent_eq (disk : Disk) (target : Path) :
    disk.originalContent target =
      (disk.targetText target).map fun text =>
        String.ofList (universalNewlines text.toList) := by
  rw [Disk.originalContent, Disk.targetText]
  split
  · rw [Disk.readText]
    cases disk.read target with
    | error e => rfl
    | ok bytes =>
        cases hdecode : decodeUtf8Bytes bytes <;>
          simp [hdecode, bind, Except.bind, Except.map]
  · rfl

/-- A preview shows what the patch of the artifact makes of the text of the file. -/
structure Previewed (ext : Externals) (disk : Disk) (artifacts : List ArtifactRow)
    (artifactId : String) (root : Path) (relativePath : PyStr) (raw patch : String) : Prop where
  target : ∃ target, resolveSafeWorkspacePath disk root relativePath = .ok target ∧
    disk.targetText target = .ok raw
  patch : ∃ artifact bytes,
    Rows.lookup ArtifactRow.artifactId artifacts artifactId = some artifact ∧
      loadArtifact ext artifacts artifactId = .ok bytes ∧ patchText artifact bytes = .ok patch

theorem applied_of_preview {ext : Externals} {disk : Disk} {artifacts : List ArtifactRow}
    {artifactId : String} {root : Path} {relativePath : PyStr} {preview : WorkspacePatchPreview}
    (h : previewPatchApply ext disk artifacts artifactId root relativePath = .ok preview) :
    ∃ raw patch count, Previewed ext disk artifacts artifactId root relativePath raw patch ∧
      applyUnifiedPatch (String.ofList (universalNewlines raw.toList)) patch =
        .ok (preview.patchedContent, count) := by
  obtain ⟨target, htarget, h⟩ := bind_ok h
  split at h
  · cases h
  rename_i artifact hart
  obtain ⟨bytes, hbytes, h⟩ := bind_ok h
  obtain ⟨patch, hpatch, h⟩ := bind_ok h
  obtain ⟨original, horiginal, h⟩ := bind_ok h
  obtain ⟨⟨patched, count⟩, happly, h⟩ := bind_ok h
  cases h
  rw [originalContent_eq] at horiginal
  cases hraw : disk.targetText target with
  | error e =>
      rw [hraw] at horiginal
      cases horiginal
  | ok raw =>
      rw [hraw] at horiginal
      cases horiginal
      exact ⟨raw, patch, count, ⟨⟨target, htarget, hraw⟩, artifact, bytes, hart, hbytes, hpatch⟩,
        happly⟩

/-- The lines that a patch does not touch are left as they are exactly if they can be preserved:
in the text a patch is applied to, and in the file that a preview is of. -/
theorem untouched_preserved_iff (original patch : String) :
    (∀ text count, applyUnifiedPatch original patch = .ok (text, count) →
      (Preserved (intended original patch) text ↔
        Preservable (EndsWithNewline original.toList) (intended original patch))) ∧
    ∀ ext disk artifacts artifactId root relativePath preview,
      previewPatchApply ext disk artifacts artifactId root relativePath = .ok preview →
        ∃ raw patch, Previewed ext disk artifacts artifactId root relativePath raw patch ∧
          (Preserved (intended raw patch) preview.patchedContent ↔
            Preservable (EndsWithNewline (universalNewlines raw.toList)) (intended raw patch)) := by
  refine ⟨fun _ _ happly => preserved_of_applied rfl happly, ?_⟩
  intro ext disk artifacts artifactId root relativePath preview hpreview
  obtain ⟨raw, patch, count, hpreviewed, happly⟩ := applied_of_preview hpreview
  have hsame : splitLines raw = splitLines (String.ofList (universalNewlines raw.toList)) := by
    rw [splitLines, splitLines, String.toList_ofList, splitLinesFrom_universalNewlines]
  have hiff := preserved_of_applied hsame happly
  rw [String.toList_ofList] at hiff
  exact ⟨raw, patch, hpreviewed, hiff⟩

namespace Sample

def firstReplaced : String := "@@ -1 +1 @@\n-a\n+c\n"

end Sample

/-- The second line loses its carriage return. -/
theorem carriage_return_lost :
    applyUnifiedPatch "a\r\nb\r\n" Sample.firstReplaced = .ok ("c\nb\n", 1) ∧
      ¬Preserved (intended "a\r\nb\r\n" Sample.firstReplaced) "c\nb\n" := by
  refine ⟨by decide +kernel, ?_⟩
  intro h
  have hline : (intended "a\r\nb\r\n" Sample.firstReplaced)[1]? =
      some (.kept ⟨['b'], ['\r', '\n']⟩) := by
    decide +kernel
  have hkept := h.kept 1 _ hline
  revert hkept
  decide +kernel

/-- A replaced first line leaves a second one that ends with a newline. -/
theorem firstReplaced_preserved_iff :
    Preserved (intended "a\nb\n" Sample.firstReplaced) "c\nb\n" ↔
      Preservable (EndsWithNewline "a\nb\n".toList) (intended "a\nb\n" Sample.firstReplaced) :=
  (untouched_preserved_iff "a\nb\n" Sample.firstReplaced).1 "c\nb\n" 1 (by decide +kernel)

end Kin.Artifacts
