import Kin.Adapters.Base
import Kin.Lib.Substitute

/-!
The scrubbing of texts before they are shown, `redact_ui_text` of `kin/tui/redaction.py`. Five
substitutions follow each other, and the second takes the names that the third looks for.
-/

namespace Kin.Tui

open Kin.Lib Kin.Adapters

/-! ### Patterns -/

/-- `[:=]`. -/
def isSeparator (c : Char) : Bool := c == ':' || c == '='

/-- `[^\s,;]`. -/
def isValue (c : Char) : Bool := !(isSpace c || c == ',' || c == ';')

/-- The names of `TUI_SECRET_REGEX`. -/
def apiKey : Regex Char := .row [word "api", .opt isBar, word "key"]
def secretKey : Regex Char := .row [word "secret", .opt isBar, word "key"]
def accessToken : Regex Char := .row [word "access", .opt isBar, word "token"]
def password : Regex Char := word "password"
def token : Regex Char := word "token"

def keyNames : List (Regex Char) := [apiKey, secretKey, accessToken, password, token]

/-- `\s*[:=]\s*`. -/
def separator : Regex Char := .row [.many isSpace, .one isSeparator, .many isSpace]

def assignment (name : Regex Char) : Regex Char := .seq name (.seq separator (.some isValue))

/-- The tokens of `TUI_SECRET_REGEX` that need no name. -/
def bareTokens : List (Regex Char) :=
  [.row [word "bearer", .some isSpace, .atLeast 20 fun c => isAlnum c || isBar c || c == '.'],
    .row [word "sk", .one isBar, word "live", .one isBar, .atLeast 24 isAlnum],
    .row [word "sk", .one isBar, word "proj", .one isBar,
      .atLeast 24 fun c => isAlnum c || isBar c],
    .row [word "sk", .one isBar, .atLeast 24 isAlnum],
    .row [word "ghp_", .times 36 isAlnum],
    -- written `AWS_` under `(?i)`
    .row [word "aws_", .times 20 isAlnum]]

def tuiSecretRegex : Regex Char :=
  .firstOf (assignment apiKey)
    ([assignment secretKey, assignment accessToken, assignment password, assignment token] ++
      bareTokens)

/-- What a path does not go on with: `[^\s:?"<>|]`. -/
def isPathChar (c : Char) : Bool :=
  !(isSpace c || c == ':' || c == '?' || c == '"' || c == '<' || c == '>' || c == '|')

/-- The start of a Windows path. -/
def winHead : Regex Char :=
  .row [.one fun c => 'a' ≤ foldCase c && foldCase c ≤ 'z', .one (· == ':'), .one (· == '\\')]

def pathWinRegex : Regex Char := .seq winHead (.atLeast 4 isPathChar)

/-- A text as it is written. -/
def exact (text : String) : Regex Char := .literal (· == ·) text.toList

def posixHead : Regex Char :=
  .row [exact "/",
    .firstOf (exact "Users")
      [exact "home", exact "private", exact "root", exact "var", exact "etc"],
    exact "/"]

def pathPosixRegex : Regex Char := .seq posixHead (.atLeast 3 isPathChar)

/-- `[^\n]+`. -/
def restOfLine : Regex Char := .some (· != '\n')

def cotTagRegex : Regex Char :=
  .firstOf (.row [word "<think>", .fewest fun _ => true, word "</think>"])
    [.row [word "<scratchpad>", .fewest fun _ => true, word "</scratchpad>"],
      .row [word "chain", .many isSpace, word "of", .many isSpace, word "thought", .many isSpace,
        word ":", .many isSpace, restOfLine],
      .row [word "internal", .many isSpace, word "reasoning", .many isSpace, word ":",
        .many isSpace, restOfLine]]

/-! ### The scrubbing -/

def hiddenMark : List Char := "[reasoning hidden]".toList

def secretMark : List Char := "[REDACTED SECRET]".toList

def pathMark : List Char := "[REDACTED PATH]".toList

/-- The five substitutions. -/
def scrub (text : List Char) : List Char :=
  let scrubbed := cotTagRegex.sub hiddenMark text
  let scrubbed := secretPatternRegex.sub secretMark scrubbed
  let scrubbed := tuiSecretRegex.sub secretMark scrubbed
  let scrubbed := pathWinRegex.sub pathMark scrubbed
  pathPosixRegex.sub pathMark scrubbed

def redactUiText : Option String → String
  | none => ""
  | some text => String.ofList (scrub text.toList)

def marks : List (List Char) := [hiddenMark, secretMark, pathMark]

def writtenMarks (text : List Char) : List (List Char) :=
  secretMark :: ((if cotTagRegex.search text then [hiddenMark] else []) ++
    if winHead.search text || posixHead.search text then [pathMark] else [])

/-! ### The marks -/

theorem bracketed_of_mem {mark : List Char} (h : mark ∈ marks) : Bracketed '[' ']' mark := by
  simp only [marks, List.mem_cons, List.not_mem_nil, or_false] at h
  rcases h with rfl | rfl | rfl
  · exact ⟨⟨_, rfl⟩, ⟨"[reasoning hidden".toList, rfl⟩⟩
  · exact ⟨⟨_, rfl⟩, ⟨"[REDACTED SECRET".toList, rfl⟩⟩
  · exact ⟨⟨_, rfl⟩, ⟨"[REDACTED PATH".toList, rfl⟩⟩

theorem hiddenMark_mem : hiddenMark ∈ marks := List.mem_cons_self

theorem secretMark_mem : secretMark ∈ marks := List.mem_cons_of_mem _ List.mem_cons_self

theorem pathMark_mem : pathMark ∈ marks :=
  List.mem_cons_of_mem _ (List.mem_cons_of_mem _ List.mem_cons_self)

theorem mem_marks_of_written {mark text : List Char} (h : mark ∈ writtenMarks text) :
    mark ∈ marks := by
  rw [writtenMarks, List.mem_cons, List.mem_append] at h
  rcases h with rfl | h | h
  · exact secretMark_mem
  · split at h
    · exact List.mem_singleton.mp h ▸ hiddenMark_mem
    · cases h
  · split at h
    · exact List.mem_singleton.mp h ▸ pathMark_mem
    · cases h

theorem eq_space_of_mark {mark : List Char} (h : mark ∈ marks) {c : Char} (hc : c ∈ mark)
    (hend : isValue c = false ∨ isPathChar c = false) : c = ' ' := by
  have hall : ∀ mark ∈ marks, mark.all (fun c => isValue c && isPathChar c || c == ' ') = true := by
    decide +kernel
  have hone := List.all_eq_true.mp (hall mark h) c hc
  rcases hend with hend | hend <;> simpa [hend] using hone

variable {r : Regex Char} {written : List (List Char)}
  {value text out front back rest w mark : List Char}

/-! ### What an assignment is made of -/

theorem avoids_keyNames {name : Regex Char} (h : name ∈ keyNames) :
    name.avoids '[' = true ∧ name.avoids ']' = true := by
  have hall : ∀ name ∈ keyNames, name.avoids '[' = true ∧ name.avoids ']' = true := by
    decide +kernel
  exact hall name h

theorem avoids_bareTokens (h : r ∈ bareTokens) : r.avoids '[' = true ∧ r.avoids ']' = true := by
  have hall : ∀ r ∈ bareTokens, r.avoids '[' = true ∧ r.avoids ']' = true := by
    decide +kernel
  exact hall r h

theorem avoids_secretPattern :
    secretPatternRegex.avoids '[' = true ∧ secretPatternRegex.avoids ']' = true := by
  decide +kernel

/-- The character between the blanks of a separator. -/
theorem exists_of_separator {sep : List Char} (h : separator.Word sep) :
    ∃ before c after, sep = before ++ c :: after ∧ isSeparator c = true ∧
      (∀ a ∈ before, isSpace a = true) ∧ ∀ a ∈ after, isSpace a = true := by
  obtain ⟨before, _, rfl, hbefore, _, _, rfl, ⟨c, rfl, hc⟩, after, _, rfl, hafter, rfl⟩ := h
  exact ⟨before, c, after, by simp, hc, hbefore, hafter⟩

/-- The label of an assignment has a separator in it and no bracket, its value no space. -/
theorem exists_of_assignment {name : Regex Char} (hname : name ∈ keyNames)
    (h : (assignment name).Word w) :
    ∃ label v, w = label ++ v ∧ '[' ∉ label ∧ ']' ∉ label ∧ (∃ c ∈ label, isSeparator c = true) ∧
      ' ' ∉ v := by
  obtain ⟨key, _, rfl, hkey, sep, v, rfl, hsep, hv⟩ := h
  obtain ⟨hopening, hclosing⟩ := avoids_keyNames hname
  obtain ⟨before, c, after, hsplit, hc, -⟩ := exists_of_separator hsep
  have hsepOpening : separator.avoids '[' = true := by decide +kernel
  have hsepClosing : separator.avoids ']' = true := by decide +kernel
  have hspace : (Regex.some isValue).avoids ' ' = true := by decide +kernel
  refine ⟨key ++ sep, v, (List.append_assoc key sep v).symm, ?_, ?_, ⟨c, ?_, hc⟩,
    Regex.not_mem_of_avoids hspace hv⟩
  · rw [List.mem_append, not_or]
    exact ⟨Regex.not_mem_of_avoids hopening hkey, Regex.not_mem_of_avoids hsepOpening hsep⟩
  · rw [List.mem_append, not_or]
    exact ⟨Regex.not_mem_of_avoids hclosing hkey, Regex.not_mem_of_avoids hsepClosing hsep⟩
  · rw [hsplit]
    simp

theorem marks_spaced (h : mark ∈ marks) :
    ' ' ∈ mark ∧ ∀ c ∈ mark, isSeparator c = false := by
  have hall : ∀ mark ∈ marks, ' ' ∈ mark ∧ mark.all (fun c => !isSeparator c) = true := by
    decide +kernel
  obtain ⟨hspace, hnone⟩ := hall mark h
  exact ⟨hspace, fun c hc => by simpa using List.all_eq_true.mp hnone c hc⟩

theorem not_assignment_over_mark {name : Regex Char} {before tail after : List Char}
    (hname : name ∈ keyNames) (hmark : mark ∈ marks) (hne : tail ≠ []) (htail : tail <:+ mark)
    (hbefore : before = [] ∨ tail = mark) :
    ¬ (assignment name).Word (before ++ (tail ++ after)) := by
  intro hword
  obtain ⟨label, v, hsplit, hopening, hclosing, ⟨c, hc, hsep⟩, hspace⟩ :=
    exists_of_assignment hname hword
  obtain ⟨hmarkSpace, hmarkSep⟩ := marks_spaced hmark
  have hbracketed := bracketed_of_mem hmark
  rcases hbefore with rfl | rfl
  · -- the separator would be in the mark, or the end of the mark in the label
    rw [List.nil_append] at hsplit
    rcases List.append_eq_append_iff.mp hsplit with ⟨more, rfl, -⟩ | ⟨more, rfl, -⟩
    · exact hclosing (List.mem_append_left more (hbracketed.closing_mem hne htail))
    · have hin := hmarkSep c (htail.subset (List.mem_append_left more hc))
      rw [hin] at hsep
      cases hsep
  · -- the mark starts in the label, or its space is in the value
    obtain ⟨body, hbody⟩ := hbracketed.opens
    rcases List.append_eq_append_iff.mp hsplit with ⟨more, rfl, hrest⟩ | ⟨more, rfl, rfl⟩
    · rcases eq_or_ne more [] with rfl | hmore
      · rw [List.nil_append] at hrest
        rw [← hrest] at hspace
        exact hspace (List.mem_append_left after hmarkSpace)
      · obtain ⟨a, more, rfl⟩ := List.exists_cons_of_ne_nil hmore
        rw [hbody, List.cons_append, List.cons_append] at hrest
        rw [← (List.cons.inj hrest).1] at hopening
        simp at hopening
    · simp [hmarkSpace] at hspace

/-! ### The match at a name -/

theorem isSpace_of_not_isValue {c : Char} (h : isValue c = false) :
    isSpace c = true ∨ c = ',' ∨ c = ';' := by
  rw [isValue, Bool.not_eq_false', Bool.or_eq_true, Bool.or_eq_true, beq_iff_eq, beq_iff_eq,
    or_assoc] at h
  exact h

theorem foldCase_of_not_isValue {c : Char} (h : isValue c = false) : foldCase c = c := by
  have hkelvin : c ≠ '\u212a' := by
    rintro rfl
    revert h
    decide
  have hlong : c ≠ '\u017f' := by
    rintro rfl
    revert h
    decide
  have hdots : ¬ (c = '\u0130' ∨ c = '\u0131') := by
    rintro (rfl | rfl) <;> revert h <;> decide
  rw [foldCase, if_neg hkelvin, if_neg hlong, if_neg hdots]
  refine dif_neg ?_
  rintro ⟨hle, hge⟩
  have hA : 65 ≤ c.toNat := UInt32.le_iff_toNat_le.mp hle
  have hZ : c.toNat ≤ 90 := UInt32.le_iff_toNat_le.mp hge
  rcases isSpace_of_not_isValue h with hspace | rfl | rfl
  · simp only [isSpace, Session.isSpaceCode, Bool.or_eq_true, Bool.and_eq_true,
      decide_eq_true_eq, beq_iff_eq] at hspace
    omega
  · exact absurd hA (by decide)
  · exact absurd hA (by decide)

theorem isValue_of_foldCase {c : Char} (h : isValue (foldCase c) = true) : isValue c = true := by
  cases hc : isValue c with
  | true => rfl
  | false =>
      rw [foldCase_of_not_isValue hc, hc] at h
      cases h

theorem map_foldCase_of_word {text : String} (h : (word text).Word w) :
    w.map foldCase = text.toList := by
  rw [word] at h
  generalize text.toList = letters at h
  induction letters generalizing w with
  | nil =>
      cases h
      rfl
  | cons a letters ih =>
      obtain ⟨_, v, rfl, ⟨c, rfl, hc⟩, hv⟩ := h
      rw [List.singleton_append, List.map_cons, ih hv, ← eq_of_beq hc]

theorem matchAt_separator {sep : List Char} (hsep : separator.Word sep) {c : Char}
    (hc : isValue c = true) : separator.matchAt (sep ++ c :: rest) = some (c :: rest) := by
  obtain ⟨before, d, after, rfl, hd, hbefore, hafter⟩ := exists_of_separator hsep
  have hspace : isSpace d = false := by
    rw [isSeparator, Bool.or_eq_true, beq_iff_eq, beq_iff_eq] at hd
    rcases hd with rfl | rfl <;> decide
  have hvalue : isSpace c = false := by
    rw [isValue, Bool.not_eq_true', Bool.or_eq_false_iff, Bool.or_eq_false_iff] at hc
    exact hc.1.1
  refine Regex.matchAt_seq (m := d :: (after ++ c :: rest)) ?_
    (Regex.matchAt_seq (m := after ++ c :: rest) ?_
      (Regex.matchAt_seq (m := c :: rest) ?_ rfl))
  · rw [Regex.matchAt_many, List.append_assoc, List.cons_append,
      List.dropWhile_append_of_pos hbefore, List.dropWhile_cons_of_neg (by simp [hspace])]
  · rw [Regex.matchAt, Regex.rests, if_pos hd]
    rfl
  · rw [Regex.matchAt_many, List.dropWhile_append_of_pos hafter,
      List.dropWhile_cons_of_neg (by simp [hvalue])]

/-- An assignment takes its value to the end. -/
theorem matchAt_assignment {text : String} {key sep : List Char} (hkey : (word text).Word key)
    (hsep : separator.Word sep) (hne : value ≠ []) (hvalue : ∀ c ∈ value, isValue c = true) :
    (assignment (word text)).matchAt (key ++ (sep ++ (value ++ back))) =
      some (back.dropWhile isValue) := by
  obtain ⟨c, value, rfl⟩ := List.exists_cons_of_ne_nil hne
  rw [List.forall_mem_cons] at hvalue
  have hrun : (Regex.some isValue).matchAt (c :: (value ++ back)) =
      some (back.dropWhile isValue) := by
    rw [Regex.matchAt_some hvalue.1, List.dropWhile_append_of_pos hvalue.2]
  exact Regex.matchAt_seq (Regex.matchAt_literal hkey)
    (Regex.matchAt_seq (matchAt_separator hsep hvalue.1) hrun)

/-- Neither text starts with the other. -/
def Apart (text other : String) : Prop :=
  ¬ text.toList <+: other.toList ∧ ¬ other.toList <+: text.toList

instance (text other : String) : Decidable (Apart text other) := inferInstanceAs (Decidable (_ ∧ _))

theorem matchAt_word_of_apart {text other : String} (h : Apart text other)
    (hw : (word other).Word w) : (word text).matchAt (w ++ rest) = none := by
  rw [← Option.not_isSome_iff_eq_none, Regex.matchAt_isSome_iff]
  rintro ⟨v, hv, hword⟩
  rcases List.prefix_or_prefix_of_prefix hv (List.prefix_append w rest) with hprefix | hprefix
  · have hletters := hprefix.map foldCase
    rw [map_foldCase_of_word hw, map_foldCase_of_word hword] at hletters
    exact h.1 hletters
  · have hletters := hprefix.map foldCase
    rw [map_foldCase_of_word hw, map_foldCase_of_word hword] at hletters
    exact h.2 hletters

/-- The names that the second substitution takes do not match at another word. -/
theorem matchAt_patternNames {other : String} (hapi : Apart "api" other)
    (hsecret : Apart "secret" other) (haccess : Apart "access" other)
    (hw : (word other).Word w) :
    ∀ q ∈ [assignment apiKey, assignment secretKey, assignment accessToken],
      q.matchAt (w ++ rest) = none := by
  have hnone : ∀ {text : String} {s t : Regex Char}, Apart text other →
      (Regex.seq (.seq (word text) s) t).matchAt (w ++ rest) = none := by
    intro text s t hapart
    exact Regex.matchAt_seq_of_none (Regex.matchAt_seq_of_none (matchAt_word_of_apart hapart hw))
  intro q hq
  simp only [List.mem_cons, List.not_mem_nil, or_false] at hq
  rcases hq with rfl | rfl | rfl
  · exact hnone hapi
  · exact hnone hsecret
  · exact hnone haccess

theorem matchAt_named {key sep : List Char} (hkey : password.Word key ∨ token.Word key)
    (hsep : separator.Word sep) (hne : value ≠ []) (hvalue : ∀ c ∈ value, isValue c = true) :
    tuiSecretRegex.matchAt (key ++ (sep ++ (value ++ back))) = some (back.dropWhile isValue) := by
  rcases hkey with hkey | hkey
  · have hassigned : (assignment password).matchAt (key ++ (sep ++ (value ++ back))) =
        some (back.dropWhile isValue) := matchAt_assignment hkey hsep hne hvalue
    have hfirst : (Regex.firstOf (assignment apiKey)
        ([assignment secretKey, assignment accessToken] ++
          assignment password :: assignment token :: bareTokens)).matchAt
            (key ++ (sep ++ (value ++ back))) = some (back.dropWhile isValue) :=
      Regex.matchAt_firstOf
        (matchAt_patternNames (by decide) (by decide) (by decide) hkey) hassigned
    exact hfirst
  · have hassigned : (assignment token).matchAt (key ++ (sep ++ (value ++ back))) =
        some (back.dropWhile isValue) := matchAt_assignment hkey hsep hne hvalue
    have hpassword : (assignment password).matchAt (key ++ (sep ++ (value ++ back))) = none :=
      Regex.matchAt_seq_of_none (matchAt_word_of_apart (by decide) hkey)
    have hbefore : ∀ q ∈ [assignment apiKey, assignment secretKey, assignment accessToken,
        assignment password], q.matchAt (key ++ (sep ++ (value ++ back))) = none := by
      intro q hq
      rcases List.mem_append.mp (show q ∈ [assignment apiKey, assignment secretKey,
        assignment accessToken] ++ [assignment password] from hq) with hq | hq
      · exact matchAt_patternNames (by decide) (by decide) (by decide) hkey q hq
      · rw [List.mem_singleton.mp hq]
        exact hpassword
    have hfirst : (Regex.firstOf (assignment apiKey)
        ([assignment secretKey, assignment accessToken, assignment password] ++
          assignment token :: bareTokens)).matchAt
            (key ++ (sep ++ (value ++ back))) = some (back.dropWhile isValue) :=
      Regex.matchAt_firstOf hbefore hassigned
    exact hfirst

theorem isValue_of_matchAt_assignment {name : Regex Char}
    (h : (assignment name).matchAt text = some rest) : ∀ c ∈ rest.head?, isValue c = false := by
  obtain ⟨middle, -, hmiddle⟩ := Regex.exists_of_matchAt_seq h
  obtain ⟨last, -, hlast⟩ := Regex.exists_of_matchAt_seq hmiddle
  exact Regex.not_of_matchAt_run hlast

/-! ### Texts of marks -/

section Marks

variable {letter : Char → Prop} {ends : Prop}

theorem outside_written (hwritten : ∀ mark ∈ written, mark ∈ marks)
    (hr : r ∈ [secretPatternRegex, tuiSecretRegex, pathWinRegex, pathPosixRegex]) :
    r.Outside written := by
  have hnone : ∀ {q : Regex Char}, q.avoids ']' = true → (∀ mark ∈ marks, q.search mark = false) →
      q.Outside written := fun hclosing hnone =>
    Regex.outside_of_search hclosing (fun mark hmark => bracketed_of_mem (hwritten mark hmark))
      fun mark hmark => hnone mark (hwritten mark hmark)
  simp only [List.mem_cons, List.not_mem_nil, or_false] at hr
  rcases hr with rfl | rfl | rfl | rfl
  · exact hnone (by decide +kernel) (by decide +kernel)
  · intro mark hmark part hne hpart rest
    have hsearch : ∀ mark ∈ marks, tuiSecretRegex.search mark = false := by decide +kernel
    cases hmatch : tuiSecretRegex.matchAt (part ++ rest) with
    | none => rfl
    | some left =>
    obtain ⟨w, hw, hword⟩ := Regex.word_of_matchAt hmatch
    rcases List.append_eq_append_iff.mp hw with ⟨more, rfl, -⟩ | ⟨more, rfl, -⟩
    · -- the match goes over the end of the mark
      obtain ⟨q, hq, hword⟩ := Regex.word_firstOf.mp hword
      rcases List.mem_append.mp (show q ∈ keyNames.map assignment ++ bareTokens from hq)
        with hq | hq
      · obtain ⟨name, hname, rfl⟩ := List.mem_map.mp hq
        have hover : (assignment name).Word ([] ++ (part ++ more)) := hword
        exact absurd hover
          (not_assignment_over_mark hname (hwritten mark hmark) hne hpart (.inl rfl))
      · exact absurd (List.mem_append_left more
          ((bracketed_of_mem (hwritten mark hmark)).closing_mem hne hpart))
          (Regex.not_mem_of_avoids (avoids_bareTokens hq).2 hword)
    · have hfound := Regex.search_iff.mpr
        ⟨w, (List.prefix_append w more).isInfix.trans hpart.isInfix, hword⟩
      rw [hsearch mark (hwritten mark hmark)] at hfound
      cases hfound
  · exact (hnone (q := winHead) (by decide +kernel) (by decide +kernel)).seq
  · exact (hnone (q := posixHead) (by decide +kernel) (by decide +kernel)).seq

theorem opens_written (hwritten : ∀ mark ∈ written, mark ∈ marks) :
    ∀ mark ∈ written, ∃ body, mark = '[' :: body :=
  fun mark hmark => (bracketed_of_mem (hwritten mark hmark)).opens

/-- The second substitution cuts no mark. -/
theorem pieced_pattern (hwritten : ∀ mark ∈ written, mark ∈ marks) (hmark : secretMark ∈ written)
    (h : Pieced ' ' written letter False front) :
    Pieced ' ' written letter False (secretPatternRegex.subFrom secretMark 0 front back) := by
  refine Regex.pieced_subFrom hmark (opens_written hwritten) id
    (outside_written hwritten (by simp)) (fun w rest hmatch => .inl ⟨not_false, ?_⟩) h
  obtain ⟨v, hv, hword⟩ := Regex.word_of_matchAt hmatch
  rw [List.append_cancel_right hv]
  exact Regex.not_mem_of_avoids avoids_secretPattern.1 hword

/-- The third cuts marks where a value ends. -/
theorem pieced_tui (hwritten : ∀ mark ∈ written, mark ∈ marks) (hmark : secretMark ∈ written)
    (h : Pieced ' ' written letter False front) :
    Pieced ' ' written letter True (tuiSecretRegex.subFrom secretMark 0 front back) := by
  refine Regex.pieced_subFrom hmark (opens_written hwritten) False.elim
    (outside_written hwritten (by simp)) (fun w rest hmatch => ?_) h
  obtain ⟨q, hq, hqmatch⟩ := Regex.exists_of_matchAt_firstOf hmatch
  rcases List.mem_append.mp (show q ∈ keyNames.map assignment ++ bareTokens from hq) with hq | hq
  · obtain ⟨name, hname, rfl⟩ := List.mem_map.mp hq
    exact .inr ⟨trivial, fun a ha mark hmark hin => eq_space_of_mark (hwritten mark hmark) hin
      (.inl (isValue_of_matchAt_assignment hqmatch a ha))⟩
  · obtain ⟨v, hv, hword⟩ := Regex.word_of_matchAt hqmatch
    rw [List.append_cancel_right hv]
    exact .inl ⟨not_false, Regex.not_mem_of_avoids (avoids_bareTokens hq).1 hword⟩

/-- The last two cut marks where a path ends. -/
theorem pieced_path (hr : r ∈ [pathWinRegex, pathPosixRegex])
    (hwritten : ∀ mark ∈ written, mark ∈ marks) (hmark : pathMark ∈ written)
    (h : Pieced ' ' written letter True front) :
    Pieced ' ' written letter True (r.subFrom pathMark 0 front back) := by
  have hend : ∀ text rest, r.matchAt text = some rest → ∀ c ∈ rest.head?, isPathChar c = false := by
    simp only [List.mem_cons, List.not_mem_nil, or_false] at hr
    intro text rest hmatch
    rcases hr with rfl | rfl
    · obtain ⟨middle, -, hrun⟩ := Regex.exists_of_matchAt_seq hmatch
      exact Regex.not_of_matchAt_run hrun
    · obtain ⟨middle, -, hrun⟩ := Regex.exists_of_matchAt_seq hmatch
      exact Regex.not_of_matchAt_run hrun
  have houtside : r.Outside written := outside_written hwritten (by
    simp only [List.mem_cons, List.not_mem_nil, or_false] at hr ⊢
    exact .inr (.inr hr))
  refine Regex.pieced_subFrom hmark (opens_written hwritten) id houtside
    (fun w rest hmatch => .inr ⟨trivial, fun a ha mark hmark hin => ?_⟩) h
  exact eq_space_of_mark (hwritten mark hmark) hin (.inr (hend _ rest hmatch a ha))

end Marks

/-! ### A secret in the value -/

/-- A word has a letter that no mark has. -/
theorem exists_foreign_of_word {text : String} {a : Char} (ha : a ∈ text.toList)
    (hforeign : ∀ mark ∈ marks, mark.all (fun c => foldCase c != a) = true)
    (h : (word text).Word w) : ∃ c ∈ w, ∀ mark ∈ marks, c ∉ mark := by
  rw [← map_foldCase_of_word h] at ha
  obtain ⟨c, hc, rfl⟩ := List.mem_map.mp ha
  refine ⟨c, hc, fun mark hmark hin => ?_⟩
  have hne := List.all_eq_true.mp (hforeign mark hmark) c hin
  simp at hne

/-- What the first or the second substitution takes has a character that no mark has. -/
theorem exists_foreign (hr : r ∈ [cotTagRegex, secretPatternRegex]) (h : r.Word w) :
    ∃ c ∈ w, ∀ mark ∈ marks, c ∉ mark := by
  have hfirst : ∀ {text : String} {a : Char} {s : Regex Char} {w : List Char}, a ∈ text.toList →
      (∀ mark ∈ marks, mark.all (fun c => foldCase c != a) = true) →
      (Regex.seq (word text) s).Word w → ∃ c ∈ w, ∀ mark ∈ marks, c ∉ mark := by
    rintro text a s w ha hforeign ⟨u, v, rfl, hu, -⟩
    obtain ⟨c, hc, hnone⟩ := exists_foreign_of_word ha hforeign hu
    exact ⟨c, List.mem_append_left v hc, hnone⟩
  have hthird : ∀ {text : String} {a : Char} {p q s : Regex Char} {w : List Char},
      a ∈ text.toList → (∀ mark ∈ marks, mark.all (fun c => foldCase c != a) = true) →
      (Regex.seq p (.seq q (.seq (word text) s))).Word w → ∃ c ∈ w, ∀ mark ∈ marks, c ∉ mark := by
    rintro text a p q s w ha hforeign ⟨u, _, rfl, -, v, _, rfl, -, hrest⟩
    obtain ⟨c, hc, hnone⟩ := hfirst ha hforeign hrest
    exact ⟨c, List.mem_append_right u (List.mem_append_right v hc), hnone⟩
  simp only [List.mem_cons, List.not_mem_nil, or_false] at hr
  rcases hr with rfl | rfl
  · obtain ⟨q, hq, hword⟩ := Regex.word_firstOf.mp h
    simp only [List.mem_cons, List.not_mem_nil, or_false] at hq
    rcases hq with rfl | rfl | rfl | rfl
    · exact hfirst (a := '<') (by decide) (by decide +kernel) hword
    · exact hfirst (a := '<') (by decide) (by decide +kernel) hword
    · exact hthird (a := 'f') (by decide) (by decide +kernel) hword
    · exact hfirst (a := 'l') (by decide) (by decide +kernel) hword
  · obtain ⟨q, hq, hword⟩ := Regex.word_firstOf.mp h
    simp only [List.mem_cons, List.not_mem_nil, or_false] at hq
    rcases hq with rfl | rfl | rfl | rfl | rfl | rfl
    · exact hthird (a := 'k') (by decide) (by decide +kernel) hword
    · exact hthird (a := 'k') (by decide) (by decide +kernel) hword
    · exact hthird (a := 'k') (by decide) (by decide +kernel) hword
    · exact hfirst (a := 'b') (by decide) (by decide +kernel) hword
    · exact hfirst (a := 'k') (by decide) (by decide +kernel) hword
    · exact hfirst (a := '_') (by decide) (by decide +kernel) hword

end Kin.Tui
