import Mathlib.Data.List.Infix

/-!
Texts in which parts are replaced by a mark. A mark starts with an opening and ends with a
closing character, so that whatever crosses its ends has one of the two inside: what is new
in the text is then in a mark, whichever parts were replaced. A text in which some letters
are only found in marks shows of them what one mark spells, or two side by side.
-/

namespace Kin.Lib

variable {α : Type}

inductive Rewrites (mark : List α) : List α → List α → Prop
  | nil : Rewrites mark [] []
  | keep (a : α) {text out : List α} (h : Rewrites mark text out) :
      Rewrites mark (a :: text) (a :: out)
  | replace (part : List α) {text out : List α} (h : Rewrites mark text out) :
      Rewrites mark (part ++ text) (mark ++ out)

structure Bracketed (opening closing : α) (mark : List α) : Prop where
  opens : ∃ body, mark = opening :: body
  closes : ∃ body, mark = body ++ [closing]

variable {mark text out text' out' w part : List α} {a : α}

theorem Bracketed.closing_mem {opening closing : α} (h : Bracketed opening closing mark)
    (hne : part ≠ []) (hpart : part <:+ mark) : closing ∈ part := by
  obtain ⟨body, rfl⟩ := h.closes
  rcases List.suffix_concat_iff.mp hpart with rfl | ⟨part, rfl, -⟩
  · exact absurd rfl hne
  · simp

theorem Bracketed.ne_nil {opening closing : α} (h : Bracketed opening closing mark) :
    mark ≠ [] := by
  obtain ⟨body, rfl⟩ := h.opens
  exact List.cons_ne_nil opening body

theorem suffix_append_cases {xs ys : List α} (h : part <:+ xs ++ ys) :
    part <:+ ys ∨ ∃ front, front ≠ [] ∧ part = front ++ ys ∧ front <:+ xs := by
  rcases List.suffix_or_suffix_of_suffix h (List.suffix_append xs ys) with hys | ⟨front, rfl⟩
  · exact .inl hys
  · rcases eq_or_ne front [] with rfl | hne
    · exact .inl List.suffix_rfl
    · exact .inr ⟨front, hne, rfl, List.suffix_append_self_iff.mp h⟩

namespace Rewrites

variable {opening closing : α}

theorem refl (mark text : List α) : Rewrites mark text text := by
  induction text with
  | nil => exact .nil
  | cons a text ih => exact .keep a ih

theorem append (h : Rewrites mark text out) (h' : Rewrites mark text' out') :
    Rewrites mark (text ++ text') (out ++ out') := by
  induction h with
  | nil => exact h'
  | keep a _ ih => exact .keep a ih
  | replace part _ ih =>
      rw [List.append_assoc, List.append_assoc]
      exact .replace part ih

/-- Up to the first opening character nothing is new. -/
theorem prefix_of (hmark : Bracketed opening closing mark) (h : Rewrites mark text out)
    (hw : w <+: out) (hopen : opening ∉ w) : w <+: text := by
  induction h generalizing w with
  | nil => exact hw
  | keep a _ ih =>
      rcases List.prefix_cons_iff.mp hw with rfl | ⟨w, rfl, htail⟩
      · exact List.nil_prefix
      · exact (List.prefix_cons_inj a).mpr
          (ih htail fun hmem => hopen (List.mem_cons_of_mem a hmem))
  | replace part _ ih =>
      obtain ⟨body, rfl⟩ := hmark.opens
      rcases List.prefix_cons_iff.mp hw with rfl | ⟨w, rfl, -⟩
      · exact List.nil_prefix
      · exact absurd List.mem_cons_self hopen

/-- What has an opening character only in front and a closing one only at the end is of the
old text or of the mark. -/
theorem infix_cases (hmark : Bracketed opening closing mark) (h : Rewrites mark text out)
    (hne : w ≠ []) (hw : w <:+: out) (hopen : opening ∉ w.tail) (hclose : closing ∉ w.dropLast) :
    w <:+: text ∨ w <:+: mark := by
  induction h with
  | nil => exact .inl hw
  | @keep a text out h ih =>
      rcases List.infix_cons_iff.mp hw with hprefix | hinside
      · -- what starts at a kept character was there before
        rcases List.prefix_cons_iff.mp hprefix with rfl | ⟨w, rfl, htail⟩
        · exact absurd rfl hne
        · exact .inl ((List.prefix_cons_inj a).mpr (h.prefix_of hmark htail hopen)).isInfix
      · exact (ih hinside).imp_left fun hold => hold.trans (List.suffix_cons a text).isInfix
  | @replace part text out h ih =>
      rcases List.infix_append_iff_ne_nil.mp hw with hin | hinside | ⟨u, v, hu, hv, rfl, hum, -⟩
      · exact .inr hin
      · exact (ih hinside).imp_left fun hold => hold.trans (List.suffix_append part text).isInfix
      · -- what crosses the end of the mark has its closing character inside
        have hmem := hmark.closing_mem hu hum
        rw [List.dropLast_append_of_ne_nil hv] at hclose
        exact absurd (List.mem_append_left _ hmem) hclose

theorem eq_or_mark (h : Rewrites mark text out) :
    out = text ∨ ∃ before after, out = before ++ (mark ++ after) := by
  induction h with
  | nil => exact .inl rfl
  | keep a _ ih =>
      rcases ih with rfl | ⟨before, after, rfl⟩
      · exact .inl rfl
      · exact .inr ⟨a :: before, after, rfl⟩
  | @replace part text out _ _ => exact .inr ⟨[], out, rfl⟩

/-- An end of the new text is an end of the old one, or it has a mark in it, or starts in
one. -/
theorem suffix_cases (hmark : mark ≠ []) (h : Rewrites mark text out) (hpart : part <:+ out) :
    part <:+ text ∨ ∃ before tail after, part = before ++ (tail ++ after) ∧ tail ≠ [] ∧
      tail <:+ mark ∧ (before = [] ∨ tail = mark) := by
  induction h with
  | nil => exact .inl hpart
  | @keep a text out h ih =>
      rcases List.suffix_cons_iff.mp hpart with rfl | hpart
      · rcases h.eq_or_mark with rfl | ⟨before, after, rfl⟩
        · exact .inl List.suffix_rfl
        · exact .inr ⟨a :: before, mark, after, rfl, hmark, List.suffix_rfl, .inr rfl⟩
      · exact (ih hpart).imp_left fun hold => hold.trans (List.suffix_cons a text)
  | @replace old text out h ih =>
      rcases suffix_append_cases hpart with hpart | ⟨tail, hne, rfl, htail⟩
      · exact (ih hpart).imp_left fun hold => hold.trans (List.suffix_append old text)
      · exact .inr ⟨[], tail, out, rfl, hne, htail, .inl rfl⟩

/-- What is not in the mark becomes no more. -/
theorem count_le [DecidableEq α] (h : Rewrites mark text out) (ha : a ∉ mark) :
    out.count a ≤ text.count a := by
  induction h with
  | nil => exact le_rfl
  | keep b _ ih =>
      rw [List.count_cons, List.count_cons]
      exact Nat.add_le_add_right ih _
  | replace part _ ih =>
      rw [List.count_append, List.count_append, List.count_eq_zero_of_not_mem ha]
      omega

end Rewrites

/-! ### Texts of marks -/

/-- A text made of marks, of ends of marks from their gap on where there are such ends, and of
characters that are no letters. -/
inductive Pieced (gap : α) (marks : List (List α)) (letter : α → Prop) (ends : Prop) :
    List α → Prop
  | nil : Pieced gap marks letter ends []
  | other {a : α} {text : List α} (ha : ¬ letter a) (h : Pieced gap marks letter ends text) :
      Pieced gap marks letter ends (a :: text)
  | mark {mark text : List α} (hmark : mark ∈ marks) (h : Pieced gap marks letter ends text) :
      Pieced gap marks letter ends (mark ++ text)
  | tail {mark part text : List α} (hends : ends) (hmark : mark ∈ marks)
      (hpart : gap :: part <:+ mark) (h : Pieced gap marks letter ends text) :
      Pieced gap marks letter ends (gap :: part ++ text)

structure Gapped (gap : α) (marks : List (List α)) (letter : α → Prop) : Prop where
  mem : ∀ mark ∈ marks, gap ∈ mark
  plain : ¬ letter gap

namespace Pieced

variable {gap : α} {marks : List (List α)} {letter : α → Prop} {ends : Prop}

theorem of_forall_not (h : ∀ a ∈ text, ¬ letter a) : Pieced gap marks letter ends text := by
  induction text with
  | nil => exact .nil
  | cons a text ih =>
      rw [List.forall_mem_cons] at h
      exact .other h.1 (ih h.2)

theorem append (h : Pieced gap marks letter ends text) (h' : Pieced gap marks letter ends text') :
    Pieced gap marks letter ends (text ++ text') := by
  induction h with
  | nil => exact h'
  | other ha _ ih => exact .other ha ih
  | mark hmark _ ih =>
      rw [List.append_assoc]
      exact .mark hmark ih
  | tail hends hmark hpart _ ih =>
      rw [List.append_assoc]
      exact .tail hends hmark hpart ih

theorem mono {ends' : Prop} (hsub : ends → ends') (h : Pieced gap marks letter ends text) :
    Pieced gap marks letter ends' text := by
  induction h with
  | nil => exact .nil
  | other ha _ ih => exact .other ha ih
  | mark hmark _ ih => exact .mark hmark ih
  | tail hends hmark hpart _ ih => exact .tail (hsub hends) hmark hpart ih

theorem of_rewrites (hmark : mark ∈ marks) (h : ∀ a ∈ text, ¬ letter a)
    (hrw : Rewrites mark text out) : Pieced gap marks letter ends out := by
  induction hrw with
  | nil => exact .nil
  | keep a _ ih =>
      rw [List.forall_mem_cons] at h
      exact .other h.1 (ih h.2)
  | replace part _ ih => exact .mark hmark (ih fun a ha => h a (List.mem_append_right part ha))

theorem mem_marks (h : Pieced gap marks letter ends text) (ha : a ∈ text) (hletter : letter a) :
    ∃ mark ∈ marks, a ∈ mark := by
  induction h with
  | nil => cases ha
  | other hb _ ih =>
      rcases List.mem_cons.mp ha with rfl | ha
      · exact absurd hletter hb
      · exact ih ha
  | mark hmark _ ih =>
      rcases List.mem_append.mp ha with ha | ha
      · exact ⟨_, hmark, ha⟩
      · exact ih ha
  | tail _ hmark hpart _ ih =>
      rcases List.mem_append.mp ha with ha | ha
      · exact ⟨_, hmark, hpart.subset ha⟩
      · exact ih ha

theorem prefix_mark (hgap : Gapped gap marks letter) (h : Pieced gap marks letter ends text)
    (hne : w ≠ []) (hw : w <+: text) (hletter : ∀ a ∈ w, letter a) :
    ∃ mark ∈ marks, w <+: mark := by
  obtain ⟨a, w, rfl⟩ := List.exists_cons_of_ne_nil hne
  have ha := hletter a List.mem_cons_self
  cases h with
  | nil => exact absurd (List.prefix_nil.mp hw) hne
  | other hb _ =>
      rw [(List.cons_prefix_cons.mp hw).1] at ha
      exact absurd ha hb
  | tail _ _ _ _ =>
      rw [(List.cons_prefix_cons.mp hw).1] at ha
      exact absurd ha hgap.plain
  | @mark mark text hmark h =>
      refine ⟨mark, hmark, ?_⟩
      rcases List.prefix_or_prefix_of_prefix hw (List.prefix_append mark text) with hin | hover
      · exact hin
      · exact absurd (hletter gap (hover.subset (hgap.mem mark hmark))) hgap.plain

/-- Letters in a row are of one mark or of two that stand side by side. -/
theorem infix_marks (hgap : Gapped gap marks letter) (h : Pieced gap marks letter ends text)
    (hne : w ≠ []) (hw : w <:+: text) (hletter : ∀ a ∈ w, letter a) :
    ∃ mark ∈ marks, ∃ mark' ∈ marks, w <:+: mark ++ mark' := by
  have hone : ∀ {mark}, mark ∈ marks → w <:+: mark →
      ∃ mark ∈ marks, ∃ mark' ∈ marks, w <:+: mark ++ mark' := fun hmark hin =>
    ⟨_, hmark, _, hmark, hin.trans (List.prefix_append _ _).isInfix⟩
  -- what crosses the end of a piece begins in its mark and ends in the next
  have htwo : ∀ {mark piece text : List α}, mark ∈ marks → piece <:+ mark →
      Pieced gap marks letter ends text → (∃ u v, v ≠ [] ∧ w = u ++ v ∧ u <:+ piece ∧ v <+: text) →
      ∃ mark ∈ marks, ∃ mark' ∈ marks, w <:+: mark ++ mark' := by
    rintro mark piece text hmark hpiece h ⟨u, v, hv, rfl, hu, hvt⟩
    obtain ⟨mark', hmark', hin⟩ := h.prefix_mark hgap hv hvt fun a ha =>
      hletter a (List.mem_append_right u ha)
    refine ⟨mark, hmark, mark', hmark', ?_⟩
    obtain ⟨before, rfl⟩ := hu.trans hpiece
    obtain ⟨after, rfl⟩ := hin
    exact ⟨before, after, by simp⟩
  induction h with
  | nil => exact absurd (List.infix_nil.mp hw) hne
  | @other a text ha h ih =>
      rcases List.infix_cons_iff.mp hw with hprefix | hinside
      · obtain ⟨mark, hmark, hin⟩ := (Pieced.other ha h).prefix_mark hgap hne hprefix hletter
        exact hone hmark hin.isInfix
      · exact ih hinside
  | @mark mark text hmark h ih =>
      rcases List.infix_append_iff_ne_nil.mp hw with hin | hinside | ⟨u, v, -, hv, hsplit, hu, hvt⟩
      · exact hone hmark hin
      · exact ih hinside
      · exact htwo hmark List.suffix_rfl h ⟨u, v, hv, hsplit, hu, hvt⟩
  | @tail mark part text _ hmark hpart h ih =>
      rcases List.infix_append_iff_ne_nil.mp hw with hin | hinside | ⟨u, v, -, hv, hsplit, hu, hvt⟩
      · exact hone hmark (hin.trans hpart.isInfix)
      · exact ih hinside
      · exact htwo hmark hpart h ⟨u, v, hv, hsplit, hu, hvt⟩

/-- Where a text is cut off, the rest is such a text, or it starts in a mark. -/
theorem drop_cases (h : Pieced gap marks letter ends (w ++ text)) :
    Pieced gap marks letter ends text ∨ ∃ mark ∈ marks, ∃ before after text', before ≠ [] ∧
      after ≠ [] ∧ before <:+ w ∧ after <:+ mark ∧ (¬ ends → mark = before ++ after) ∧
        text = after ++ text' ∧ Pieced gap marks letter ends text' := by
  generalize hall : w ++ text = all at h
  induction h generalizing w with
  | nil =>
      rw [(List.append_eq_nil_iff.mp hall).2]
      exact .inl .nil
  | @other a rest ha h ih =>
      rcases List.append_eq_cons_iff.mp hall with ⟨rfl, rfl⟩ | ⟨w, rfl, rfl⟩
      · exact .inl (.other ha h)
      · refine (ih rfl).imp_right ?_
        rintro ⟨mark, hmark, before, after, text', hbefore, hafter, hw, hin⟩
        exact ⟨mark, hmark, before, after, text', hbefore, hafter,
          hw.trans (List.suffix_cons a w), hin⟩
  | @mark mark rest hmark h ih =>
      rcases List.append_eq_append_iff.mp hall with ⟨after, rfl, rfl⟩ | ⟨more, rfl, rfl⟩
      · rcases eq_or_ne w [] with rfl | hw
        · exact .inl (.mark hmark h)
        rcases eq_or_ne after [] with rfl | hafter
        · exact .inl h
        · exact .inr ⟨w ++ after, hmark, w, after, rest, hw, hafter, List.suffix_rfl,
            List.suffix_append w after, fun _ => rfl, rfl, h⟩
      · refine (ih rfl).imp_right ?_
        rintro ⟨mark', hmark', before, after, text', hbefore, hafter, hw, hin⟩
        exact ⟨mark', hmark', before, after, text', hbefore, hafter,
          hw.trans (List.suffix_append mark more), hin⟩
  | @tail mark part rest hends hmark hpart h ih =>
      rcases List.append_eq_append_iff.mp hall with ⟨after, hsplit, rfl⟩ | ⟨more, rfl, rfl⟩
      · rcases eq_or_ne w [] with rfl | hw
        · rw [List.nil_append] at hsplit
          rw [← hsplit]
          exact .inl (.tail hends hmark hpart h)
        rcases eq_or_ne after [] with rfl | hafter
        · exact .inl h
        · rw [hsplit] at hpart
          exact .inr ⟨mark, hmark, w, after, rest, hw, hafter, List.suffix_rfl,
            (List.suffix_append w after).trans hpart, fun hno => absurd hends hno, rfl, h⟩
      · refine (ih rfl).imp_right ?_
        rintro ⟨mark', hmark', before, after, text', hbefore, hafter, hw, hin⟩
        exact ⟨mark', hmark', before, after, text', hbefore, hafter,
          hw.trans (List.suffix_append _ more), hin⟩

end Pieced

end Kin.Lib
