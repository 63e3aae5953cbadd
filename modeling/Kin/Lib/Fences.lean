import Mathlib.Data.List.Basic
import Mathlib.Data.List.Infix

/-!
Fenced code in a marked-up text. A line is the list of its code points together with an
origin, which says who wrote it, so that a property of a text can tell the lines of its
author from those that came with an inserted value. Fences are those of CommonMark outside
of nested blocks.
-/

namespace Kin.Lib

abbrev Codes := List Nat

/-! ### Fences -/

inductive FenceMark
  | backtick
  | tilde
  deriving DecidableEq

def FenceMark.code : FenceMark → Nat
  | .backtick => 0x60
  | .tilde => 0x7E

structure Fence where
  mark : FenceMark
  length : Nat
  three_le : 3 ≤ length
  deriving DecidableEq

def indentOf (codes : Codes) : Nat := (codes.takeWhile (· == 0x20)).length

/-- The marks a line starts with, after its indentation. -/
def markRun (mark : FenceMark) (codes : Codes) : Codes :=
  (codes.dropWhile (· == 0x20)).takeWhile (· == mark.code)

def infoOf (mark : FenceMark) (codes : Codes) : Codes :=
  (codes.dropWhile (· == 0x20)).dropWhile (· == mark.code)

def fenceOf (mark : FenceMark) (codes : Codes) : Option Fence :=
  if h : indentOf codes ≤ 3 ∧ 3 ≤ (markRun mark codes).length then
    some ⟨mark, (markRun mark codes).length, h.2⟩
  else none

/-- The fence a line opens. The info string of a backtick fence has no backtick. -/
def opening (codes : Codes) : Option Fence :=
  match fenceOf .backtick codes with
  | some fence => if FenceMark.backtick.code ∈ infoOf .backtick codes then none else some fence
  | none => fenceOf .tilde codes

/-- Whether a line closes a fence: as many marks at least, and only blanks after them. -/
def closes (fence : Fence) (codes : Codes) : Bool :=
  decide (indentOf codes ≤ 3) && decide (fence.length ≤ (markRun fence.mark codes).length) &&
    (infoOf fence.mark codes).all fun c => c == 0x20 || c == 0x09

theorem opening_cons_of_ne {c : Nat} {codes : Codes} (hspace : c ≠ 0x20) (hbacktick : c ≠ 0x60)
    (htilde : c ≠ 0x7E) : opening (c :: codes) = none := by
  simp [opening, fenceOf, markRun, FenceMark.code, hspace, hbacktick, htilde]

theorem closes_cons_of_ne {c : Nat} {codes : Codes} (fence : Fence) (hspace : c ≠ 0x20)
    (hbacktick : c ≠ 0x60) (htilde : c ≠ 0x7E) : closes fence (c :: codes) = false := by
  have hmark : c ≠ fence.mark.code := by
    cases fence.mark
    · exact hbacktick
    · exact htilde
  have hthree := fence.three_le
  have hrun : markRun fence.mark (c :: codes) = [] := by
    simp [markRun, hspace, hmark]
  have hshort : ¬ fence.length ≤ 0 := by omega
  rw [closes, hrun, List.length_nil, decide_eq_false hshort, Bool.and_false, Bool.false_and]

/-! ### Reading a text -/

structure Line (ω : Type) where
  origin : ω
  codes : Codes

section Reading

variable {ω : Type} (isTitle : Codes → Bool)

def fenceAfter : Option Fence → Codes → Option Fence
  | none, codes => opening codes
  | some fence, codes => if closes fence codes then none else some fence

def titles : Option Fence → List (Line ω) → List (Line ω)
  | _, [] => []
  | none, line :: lines =>
      if opening line.codes = none ∧ isTitle line.codes = true then line :: titles none lines
      else titles (fenceAfter none line.codes) lines
  | some fence, line :: lines => titles (fenceAfter (some fence) line.codes) lines

/-- The line that closes each fence that is opened, or `none` where the text ends before. -/
def closers : Option Fence → List (Line ω) → List (Option (Line ω))
  | none, [] => []
  | some _, [] => [none]
  | none, line :: lines => closers (fenceAfter none line.codes) lines
  | some fence, line :: lines =>
      if closes fence line.codes then some line :: closers none lines
      else closers (some fence) lines

/-- The titles are the expected ones, and each fence is closed by a line of the author's. -/
structure Framed (isCloser : ω → Bool) (expected : List ω) (fence : Option Fence)
    (lines : List (Line ω)) : Prop where
  titles_eq : (titles isTitle fence lines).map Line.origin = expected
  closed : ∀ closer ∈ closers fence lines, ∃ line, closer = some line ∧ isCloser line.origin

theorem titles_sublist (fence : Option Fence) (lines : List (Line ω)) :
    (titles isTitle fence lines).Sublist lines := by
  induction lines generalizing fence with
  | nil => cases fence <;> exact .slnil
  | cons line lines ih =>
      cases fence with
      | some fence => exact (ih _).cons line
      | none =>
          rw [titles]
          split
          · exact (ih none).cons_cons line
          · exact (ih _).cons line

variable {isTitle} {isCloser : ω → Bool} {expected : List ω} {fence : Fence} {line : Line ω}
  {lines rest : List (Line ω)}

/-! ### One line -/

@[simp] theorem framed_none_nil : Framed isTitle isCloser [] none ([] : List (Line ω)) :=
  ⟨rfl, by simp [closers]⟩

@[simp] theorem not_framed_some_nil :
    ¬ Framed isTitle isCloser expected (some fence) ([] : List (Line ω)) := by
  intro h
  obtain ⟨line, hline, -⟩ := h.closed none (List.mem_singleton.mpr rfl)
  cases hline

theorem framed_opening (h : opening line.codes = some fence) :
    Framed isTitle isCloser expected none (line :: lines) ↔
      Framed isTitle isCloser expected (some fence) lines := by
  have htitles : titles isTitle none (line :: lines) = titles isTitle (some fence) lines := by
    rw [titles, fenceAfter, h, if_neg fun hand => Option.some_ne_none _ hand.1]
  have hclosers : closers none (line :: lines) = closers (some fence) lines := by
    rw [closers, fenceAfter, h]
  exact ⟨fun hf => ⟨htitles ▸ hf.titles_eq, hclosers ▸ hf.closed⟩,
    fun hf => ⟨htitles ▸ hf.titles_eq, hclosers ▸ hf.closed⟩⟩

theorem framed_plain (hopening : opening line.codes = none) (htitle : isTitle line.codes = false) :
    Framed isTitle isCloser expected none (line :: lines) ↔
      Framed isTitle isCloser expected none lines := by
  have htitles : titles isTitle none (line :: lines) = titles isTitle none lines := by
    rw [titles, fenceAfter, hopening, if_neg fun hand => Bool.eq_false_iff.mp htitle hand.2]
  have hclosers : closers none (line :: lines) = closers none lines := by
    rw [closers, fenceAfter, hopening]
  exact ⟨fun hf => ⟨htitles ▸ hf.titles_eq, hclosers ▸ hf.closed⟩,
    fun hf => ⟨htitles ▸ hf.titles_eq, hclosers ▸ hf.closed⟩⟩

theorem titles_title (hopening : opening line.codes = none) (htitle : isTitle line.codes = true) :
    titles isTitle none (line :: lines) = line :: titles isTitle none lines := by
  rw [titles, if_pos ⟨hopening, htitle⟩]

theorem framed_title (hopening : opening line.codes = none) (htitle : isTitle line.codes = true) :
    Framed isTitle isCloser (line.origin :: expected) none (line :: lines) ↔
      Framed isTitle isCloser expected none lines := by
  have hclosers : closers none (line :: lines) = closers none lines := by
    rw [closers, fenceAfter, hopening]
  constructor
  · intro hf
    have htitles := hf.titles_eq
    rw [titles_title hopening htitle, List.map_cons] at htitles
    exact ⟨(List.cons.inj htitles).2, hclosers ▸ hf.closed⟩
  · intro hf
    refine ⟨?_, hclosers ▸ hf.closed⟩
    rw [titles_title hopening htitle, List.map_cons, hf.titles_eq]

theorem not_framed_of_title (hopening : opening line.codes = none)
    (htitle : isTitle line.codes = true) (horigin : line.origin ∉ expected) :
    ¬ Framed isTitle isCloser expected none (line :: lines) := by
  intro hf
  have htitles := hf.titles_eq
  rw [titles_title hopening htitle, List.map_cons] at htitles
  exact horigin (htitles ▸ List.mem_cons_self)

theorem framed_within (h : closes fence line.codes = false) :
    Framed isTitle isCloser expected (some fence) (line :: lines) ↔
      Framed isTitle isCloser expected (some fence) lines := by
  have htitles : titles isTitle (some fence) (line :: lines) =
      titles isTitle (some fence) lines := by
    rw [titles, fenceAfter, h, if_neg Bool.false_ne_true]
  have hclosers : closers (some fence) (line :: lines) = closers (some fence) lines := by
    rw [closers, h, if_neg Bool.false_ne_true]
  exact ⟨fun hf => ⟨htitles ▸ hf.titles_eq, hclosers ▸ hf.closed⟩,
    fun hf => ⟨htitles ▸ hf.titles_eq, hclosers ▸ hf.closed⟩⟩

theorem framed_closing (h : closes fence line.codes = true) :
    Framed isTitle isCloser expected (some fence) (line :: lines) ↔
      isCloser line.origin = true ∧ Framed isTitle isCloser expected none lines := by
  have htitles : titles isTitle (some fence) (line :: lines) = titles isTitle none lines := by
    rw [titles, fenceAfter, h, if_pos rfl]
  have hclosers : closers (some fence) (line :: lines) = some line :: closers none lines := by
    rw [closers, h, if_pos rfl]
  constructor
  · intro hf
    have hclosed := hf.closed
    rw [hclosers] at hclosed
    obtain ⟨closer, hcloser, horigin⟩ := hclosed _ List.mem_cons_self
    cases hcloser
    exact ⟨horigin, htitles ▸ hf.titles_eq,
      fun closer hmem => hclosed closer (List.mem_cons_of_mem _ hmem)⟩
  · rintro ⟨horigin, hf⟩
    refine ⟨htitles ▸ hf.titles_eq, ?_⟩
    rw [hclosers]
    intro closer hmem
    rcases List.mem_cons.mp hmem with rfl | hmem
    · exact ⟨line, rfl, horigin⟩
    · exact hf.closed closer hmem

/-! ### A run of lines that are not the author's -/

theorem framed_within_append (hcloser : ∀ line ∈ lines, isCloser line.origin = false) :
    Framed isTitle isCloser expected (some fence) (lines ++ rest) ↔
      (∀ line ∈ lines, closes fence line.codes = false) ∧
        Framed isTitle isCloser expected (some fence) rest := by
  induction lines with
  | nil => simp
  | cons line lines ih =>
      rw [List.forall_mem_cons] at hcloser
      rw [List.cons_append, List.forall_mem_cons]
      cases hcloses : closes fence line.codes with
      | true =>
          rw [framed_closing hcloses, hcloser.1]
          simp
      | false => rw [framed_within hcloses, ih hcloser.2, and_assoc, eq_self, true_and]

theorem framed_outside_append (horigin : ∀ line ∈ lines, line.origin ∉ expected) :
    Framed isTitle isCloser expected none (lines ++ rest) ↔
      (∀ line ∈ lines.takeWhile (fun line => opening line.codes = none),
        isTitle line.codes = false) ∧
      Framed isTitle isCloser expected none
        (lines.dropWhile (fun line => opening line.codes = none) ++ rest) := by
  induction lines with
  | nil => simp
  | cons line lines ih =>
      rw [List.forall_mem_cons] at horigin
      cases hopening : opening line.codes with
      | some fence => simp [hopening]
      | none =>
          rw [List.cons_append, List.takeWhile_cons_of_pos (by simp [hopening]),
            List.dropWhile_cons_of_pos (by simp [hopening]), List.forall_mem_cons]
          cases htitle : isTitle line.codes with
          | true =>
              have hnot : ¬ Framed isTitle isCloser expected none (line :: (lines ++ rest)) :=
                not_framed_of_title hopening htitle horigin.1
              simp [hnot]
          | false => rw [framed_plain hopening htitle, ih horigin.2, and_assoc, eq_self, true_and]

theorem not_framed_of_few {fence : Option Fence} (own : ω → Bool)
    (hown : ∀ origin ∈ expected, own origin = true)
    (hfew : (lines.filter fun line => own line.origin).length < expected.length) :
    ¬ Framed isTitle isCloser expected fence lines := by
  intro hf
  have hall : (titles isTitle fence lines).filter (fun line => own line.origin) =
      titles isTitle fence lines := by
    refine List.filter_eq_self.mpr ?_
    intro line hline
    exact hown _ (hf.titles_eq ▸ List.mem_map_of_mem hline)
  have hle := ((titles_sublist isTitle fence lines).filter
    fun line => own line.origin).length_le
  rw [hall, ← List.length_map Line.origin, hf.titles_eq] at hle
  omega

end Reading

end Kin.Lib
