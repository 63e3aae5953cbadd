import Kin.Lib.Regex
import Kin.Lib.Rewrite

/-!
Replacing the matches of an expression in a text, from left to right and without overlap.
A text is read in two parts, a front and what lies behind it, so that a match can be seen
to begin in the one and to run into the other.
-/

namespace Kin.Lib.Regex

variable {α : Type}

/-! ### The substitution -/

/-- How many characters the preferred match at the front takes; `0` when there is none. A
match of no characters does not count. -/
def takes (r : Regex α) (text : List α) : Nat :=
  match r.matchAt text with
  | .some rest => text.length - rest.length
  | none => 0

/-- The front with its matches replaced; the first `skip` characters are of a match already
replaced. -/
def subFrom (r : Regex α) (mark : List α) : Nat → List α → List α → List α
  | _, [], _ => []
  | 0, a :: front, back =>
      match r.takes (a :: front ++ back) with
      | 0 => a :: subFrom r mark 0 front back
      | n + 1 => mark ++ subFrom r mark n front back
  | skip + 1, _ :: front, back => subFrom r mark skip front back

/-- How many characters of `back` are taken by a match that begins in the front. -/
def overrun (r : Regex α) : Nat → List α → List α → Nat
  | skip, [], _ => skip
  | 0, a :: front, back =>
      match r.takes (a :: front ++ back) with
      | 0 => overrun r 0 front back
      | n + 1 => overrun r n front back
  | skip + 1, _ :: front, back => overrun r skip front back

def sub (r : Regex α) (mark text : List α) : List α := r.subFrom mark 0 text []

variable {r s : Regex α} {mark front middle back text rest : List α} {skip : Nat}

theorem takes_eq_zero_of_matchAt (h : r.matchAt text = none) : r.takes text = 0 := by
  rw [takes, h]

theorem takes_of_matchAt {w : List α} (h : r.matchAt (w ++ rest) = .some rest) :
    r.takes (w ++ rest) = w.length := by
  rw [takes, h]
  simp

theorem word_of_takes (h : r.takes text ≠ 0) :
    ∃ w rest, text = w ++ rest ∧ r.Word w ∧ w.length = r.takes text ∧
      r.matchAt text = .some rest := by
  cases hmatch : r.matchAt text with
  | none => exact absurd (takes_eq_zero_of_matchAt hmatch) h
  | some rest =>
      obtain ⟨w, rfl, hw⟩ := word_of_matchAt hmatch
      exact ⟨w, rest, rfl, hw, (takes_of_matchAt hmatch).symm, rfl⟩

theorem subFrom_append :
    r.subFrom mark skip (front ++ middle) back =
      r.subFrom mark skip front (middle ++ back) ++
        r.subFrom mark (r.overrun skip front (middle ++ back)) middle back := by
  induction front generalizing skip with
  | nil => rw [List.nil_append, subFrom, overrun, List.nil_append]
  | cons a front ih =>
      cases skip with
      | succ skip => rw [List.cons_append, subFrom, subFrom, overrun, ih]
      | zero =>
          rw [List.cons_append, subFrom, subFrom, overrun, List.cons_append, List.append_assoc,
            ← List.cons_append]
          cases r.takes (a :: front ++ (middle ++ back)) with
          | zero =>
              dsimp only
              rw [ih, List.cons_append]
          | succ n =>
              dsimp only
              rw [ih, List.append_assoc]

/-- The characters of a match already replaced are skipped. -/
theorem subFrom_skip (h : skip ≤ front.length) :
    r.subFrom mark skip front back = r.subFrom mark 0 (front.drop skip) back := by
  induction front generalizing skip with
  | nil =>
      rw [Nat.le_zero.mp h]
      rfl
  | cons a front ih =>
      cases skip with
      | zero => rfl
      | succ skip => exact ih (Nat.le_of_succ_le_succ h)

theorem subFrom_skip_all (h : front.length ≤ skip) : r.subFrom mark skip front back = [] := by
  induction front generalizing skip with
  | nil => rfl
  | cons a front ih =>
      cases skip with
      | zero => exact absurd h (Nat.not_succ_le_zero _)
      | succ skip => exact ih (Nat.le_of_succ_le_succ h)

/-- What a substitution does is to replace parts by the mark. -/
theorem rewrites_subFrom :
    Rewrites mark (front.drop skip) (r.subFrom mark skip front back) := by
  induction front generalizing skip with
  | nil =>
      rw [List.drop_nil, subFrom]
      exact .nil
  | cons a front ih =>
      cases skip with
      | succ skip => exact ih
      | zero =>
          rw [List.drop_zero, subFrom]
          cases r.takes (a :: front ++ back) with
          | zero =>
              have hrest : Rewrites mark (front.drop 0) (r.subFrom mark 0 front back) := ih
              exact .keep a hrest
          | succ n =>
              have hrest : Rewrites mark (front.drop n) (r.subFrom mark n front back) := ih
              have hreplace := Rewrites.replace (a :: front.take n) hrest
              rwa [List.cons_append, List.take_append_drop] at hreplace

theorem rewrites_sub : Rewrites mark text (r.sub mark text) := by
  have h : Rewrites mark (text.drop 0) (r.subFrom mark 0 text []) := rewrites_subFrom
  exact h

/-! ### A match that is replaced -/

/-- Where the scan arrives at a match, the match is replaced and the scan goes on behind it. -/
theorem sub_of_match {w : List α} (hreached : r.overrun 0 front (w ++ rest) = 0) (hw : w ≠ [])
    (hmatch : r.matchAt (w ++ rest) = .some rest) :
    r.sub mark (front ++ (w ++ rest)) =
      r.subFrom mark 0 front (w ++ rest) ++ (mark ++ r.sub mark rest) := by
  obtain ⟨a, w, rfl⟩ := List.exists_cons_of_ne_nil hw
  have htakes : r.takes (a :: (w ++ rest) ++ []) = w.length + 1 := by
    rw [List.append_nil]
    exact takes_of_matchAt hmatch
  rw [sub, subFrom_append, List.append_nil, hreached, List.cons_append, subFrom, htakes]
  have hskip : w.length ≤ (w ++ rest).length := by simp
  dsimp only
  rw [subFrom_skip hskip, List.drop_left]
  rfl

/-- A text in which no match begins is kept. -/
theorem subFrom_of_none
    (h : ∀ part, part ≠ [] → part <:+ front → r.matchAt (part ++ back) = none) :
    r.subFrom mark 0 front back = front ∧ r.overrun 0 front back = 0 := by
  induction front with
  | nil => exact ⟨rfl, rfl⟩
  | cons a front ih =>
      have htakes := takes_eq_zero_of_matchAt (h _ (List.cons_ne_nil a front) List.suffix_rfl)
      obtain ⟨hsub, hover⟩ := ih fun part hne hpart =>
        h part hne (hpart.trans (List.suffix_cons a front))
      rw [subFrom, overrun, htakes]
      exact ⟨by dsimp only; rw [hsub], hover⟩

/-- A text in which a search finds nothing. -/
theorem matchAt_eq_none_of_search {part : List α} (h : r.search text = false)
    (hpart : part <:+: text) : r.matchAt part = none := by
  cases hmatch : r.matchAt part with
  | none => rfl
  | some rest =>
      obtain ⟨w, rfl, hword⟩ := word_of_matchAt hmatch
      have hfound := search_iff.mpr ⟨w, List.infix_append_left.trans hpart, hword⟩
      rw [h] at hfound
      cases hfound

theorem sub_of_search (h : r.search text = false) : r.sub mark text = text := by
  refine (subFrom_of_none ?_).1
  intro part _ hpart
  rw [List.append_nil]
  exact matchAt_eq_none_of_search h hpart.isInfix

/-- A part that no match touches is kept, between what the rest becomes. -/
theorem sub_of_untouched (hreached : r.overrun 0 front (middle ++ back) = 0)
    (hnone : ∀ part, part ≠ [] → part <:+ middle → r.matchAt (part ++ back) = none) :
    r.sub mark (front ++ (middle ++ back)) =
      r.subFrom mark 0 front (middle ++ back) ++ (middle ++ r.sub mark back) := by
  obtain ⟨hsub, hover⟩ : r.subFrom mark 0 middle back = middle ∧ r.overrun 0 middle back = 0 :=
    subFrom_of_none hnone
  rw [sub, subFrom_append, List.append_nil, hreached, subFrom_append, List.append_nil, hover, hsub]
  rfl

/-- A front is kept, or its first match is replaced. -/
theorem sub_append_cases (r : Regex α) (mark front back : List α) :
    r.sub mark (front ++ back) = front ++ r.sub mark back ∨
      ∃ before part w rest, front = before ++ part ∧ part ≠ [] ∧ part ++ back = w ++ rest ∧
        r.Word w ∧ r.sub mark (front ++ back) = before ++ (mark ++ r.sub mark rest) := by
  induction front with
  | nil => exact .inl rfl
  | cons a front ih =>
      rw [List.cons_append, sub, subFrom, List.append_nil]
      cases htakes : r.takes (a :: (front ++ back)) with
      | zero =>
          refine ih.imp (fun hkept => ?_) ?_
          · exact congrArg (a :: ·) hkept
          · rintro ⟨before, part, w, rest, rfl, hpart, hmatch, hword, hsub⟩
            exact ⟨a :: before, part, w, rest, rfl, hpart, hmatch, hword,
              congrArg (a :: ·) hsub⟩
      | succ n =>
          obtain ⟨w, rest, htext, hword, hw, -⟩ := word_of_takes (r := r) (by rw [htakes]; simp)
          rw [htakes] at hw
          obtain ⟨b, w, rfl⟩ := List.exists_cons_of_ne_nil (List.ne_nil_of_length_eq_add_one hw)
          rw [List.cons_append, List.cons.injEq] at htext
          obtain ⟨rfl, htext⟩ := htext
          rw [List.length_cons, Nat.add_right_cancel_iff] at hw
          refine .inr ⟨[], a :: front, a :: w, rest, rfl, List.cons_ne_nil a front, ?_, hword, ?_⟩
          · rw [List.cons_append, htext, List.cons_append]
          · have hle : n ≤ (front ++ back).length := by
              rw [htext, List.length_append, hw]
              omega
            dsimp only
            rw [subFrom_skip hle, htext, ← hw, List.drop_left]
            rfl

/-- A match that runs over is under way from the start, or begins where the scan arrives. -/
theorem overrun_cases (h : r.overrun skip front back ≠ 0) :
    skip = front.length + r.overrun skip front back ∨
      ∃ before w rest, front ++ back = before ++ (w ++ rest) ∧
        r.overrun skip before (w ++ rest) = 0 ∧ r.matchAt (w ++ rest) = .some rest ∧
        before.length < front.length ∧ back.length = rest.length + r.overrun skip front back := by
  induction front generalizing skip with
  | nil => exact .inl (by rw [overrun, List.length_nil, Nat.zero_add])
  | cons a front ih =>
      cases skip with
      | succ skip =>
          rw [overrun] at h
          rw [overrun]
          rcases ih h with hskip | ⟨before, w, rest, htext, hreached, hmatch, hlt, hback⟩
          · exact .inl (by rw [List.length_cons]; omega)
          · exact .inr ⟨a :: before, w, rest, by rw [List.cons_append, htext]; rfl, hreached,
              hmatch, Nat.succ_lt_succ hlt, hback⟩
      | zero =>
          cases htakes : r.takes (a :: front ++ back) with
          | zero =>
              rw [overrun, htakes] at h
              rw [overrun, htakes]
              dsimp only at h ⊢
              rcases ih h with hskip | ⟨before, w, rest, htext, hreached, hmatch, hlt, hback⟩
              · exact absurd hskip (by omega)
              · refine .inr ⟨a :: before, w, rest, by rw [List.cons_append, htext]; rfl, ?_, hmatch,
                  Nat.succ_lt_succ hlt, hback⟩
                rw [overrun, List.cons_append, ← htext, ← List.cons_append, htakes]
                exact hreached
          | succ n =>
              rw [overrun, htakes] at h
              rw [overrun, htakes]
              dsimp only at h ⊢
              rcases ih h with hskip | ⟨before, w, rest, htext, hreached, hmatch, hlt, hback⟩
              · have hne : r.takes (a :: front ++ back) ≠ 0 := by
                  rw [htakes]
                  exact Nat.succ_ne_zero n
                obtain ⟨w, rest, htext, -, hlength, hmatch⟩ := word_of_takes hne
                have hlengths := congrArg List.length htext
                rw [List.length_append, List.length_append, List.length_cons, hlength,
                  htakes] at hlengths
                refine .inr ⟨[], w, rest, htext, rfl, htext ▸ hmatch, by simp, ?_⟩
                omega
              · refine .inr ⟨a :: before, w, rest, by rw [List.cons_append, htext]; rfl, ?_, hmatch,
                  Nat.succ_lt_succ hlt, hback⟩
                rw [overrun, List.cons_append, ← htext, ← List.cons_append, htakes]
                exact hreached

/-- The match that runs over, cut where the front ends. -/
theorem exists_of_overrun (h : r.overrun 0 front back ≠ 0) :
    ∃ before part u rest, front = before ++ part ∧ part ≠ [] ∧ back = u ++ rest ∧
      u.length = r.overrun 0 front back ∧ r.overrun 0 before (part ++ back) = 0 ∧
        r.matchAt (part ++ back) = .some rest := by
  rcases overrun_cases h with hskip | ⟨before, w, rest, htext, hreached, hmatch, hlt, hback⟩
  · exact absurd hskip (by omega)
  · have hlengths := congrArg List.length htext
    simp only [List.length_append] at hlengths
    rcases List.append_eq_append_iff.mp htext with ⟨more, rfl, -⟩ | ⟨part, rfl, hw⟩
    · rw [List.length_append] at hlt
      exact absurd hlt (by omega)
    · have hpart : part ≠ [] := by
        rintro rfl
        simp at hlt
      rcases List.append_eq_append_iff.mp hw with ⟨more, rfl, hrest⟩ | ⟨u, rfl, rfl⟩
      · have hle := congrArg List.length hrest
        rw [List.length_append] at hle
        exact absurd hle (by omega)
      · rw [List.append_assoc] at hreached hmatch
        refine ⟨before, part, u, rest, rfl, hpart, rfl, ?_, hreached, hmatch⟩
        rw [List.length_append] at hback
        omega

theorem overrun_le : r.overrun 0 front back ≤ back.length := by
  by_cases h : r.overrun 0 front back = 0
  · rw [h]
    exact Nat.zero_le _
  · obtain ⟨-, -, u, rest, -, -, rfl, hlength, -, -⟩ := exists_of_overrun h
    rw [← hlength, List.length_append]
    exact Nat.le_add_right _ _

/-- The scan goes on behind what a match from the front has taken. -/
theorem sub_append : r.sub mark (front ++ back) =
    r.subFrom mark 0 front back ++ r.sub mark (back.drop (r.overrun 0 front back)) := by
  rw [sub, subFrom_append, List.append_nil, subFrom_skip overrun_le]
  rfl

/-! ### Matches in a text with marks -/

/-- A match can begin in the front and run into what lies behind. -/
def RunsInto (r : Regex α) (front back : List α) : Prop :=
  ∃ part u, part ≠ [] ∧ u ≠ [] ∧ part <:+ front ∧ u <+: back ∧ r.Word (part ++ u)

theorem runsInto_of_overrun (h : r.overrun 0 front back ≠ 0) : r.RunsInto front back := by
  obtain ⟨before, part, u, rest, rfl, hpart, rfl, hlength, -, hmatch⟩ := exists_of_overrun h
  refine ⟨part, u, hpart, ?_, List.suffix_append before part, List.prefix_append u rest, ?_⟩
  · rintro rfl
    exact h hlength.symm
  · obtain ⟨w, hw, hword⟩ := word_of_matchAt hmatch
    rw [← List.append_assoc] at hw
    rwa [List.append_cancel_right hw]

theorem not_runsInto_of_search (h : r.search (front ++ back) = false) :
    ¬ r.RunsInto front back := by
  rintro ⟨part, u, -, -, ⟨before, rfl⟩, ⟨after, rfl⟩, hword⟩
  have hinside : part ++ u <:+: before ++ part ++ (u ++ after) := ⟨before, after, by simp⟩
  have hfound := search_iff.mpr ⟨part ++ u, hinside, hword⟩
  rw [h] at hfound
  cases hfound

section Marks

variable {opening closing : α} {front' back' : List α}

/-- Where no match takes the ends of a mark, the marks bring no match with them. -/
theorem RunsInto.of_rewrites (hmark : Bracketed opening closing mark)
    (hopening : r.avoids opening = true) (hclosing : r.avoids closing = true)
    (hfront : Rewrites mark front front') (hback : Rewrites mark back back')
    (h : r.RunsInto front' back') : r.RunsInto front back := by
  obtain ⟨part, u, hpart, hu, hsuffix, hprefix, hword⟩ := h
  have hclosed := not_mem_of_avoids hclosing hword
  have hopened := not_mem_of_avoids hopening hword
  refine ⟨part, u, hpart, hu, ?_,
    hback.prefix_of hmark hprefix fun hmem => hopened (List.mem_append_right part hmem), hword⟩
  rcases hfront.suffix_cases hmark.ne_nil hsuffix with
    hold | ⟨before, tail, after, rfl, hne, htail, -⟩
  · exact hold
  · have hmem := hmark.closing_mem hne htail
    exact absurd (by simp [hmem]) hclosed

theorem matchAt_eq_none_of_rewrites (hmark : Bracketed opening closing mark)
    (hopening : r.avoids opening = true) (hback : Rewrites mark back back')
    (h : r.matchAt back = none) : r.matchAt back' = none := by
  cases hmatch : r.matchAt back' with
  | none => rfl
  | some rest =>
      obtain ⟨w, rfl, hword⟩ := word_of_matchAt hmatch
      have hold := hback.prefix_of hmark (List.prefix_append w rest)
        (not_mem_of_avoids hopening hword)
      have hsome := matchAt_isSome_iff.mpr ⟨w, hold, hword⟩
      rw [h] at hsome
      cases hsome

/-- A search finds nothing new in a text with marks. -/
theorem search_eq_false_of_rewrites (hmark : Bracketed opening closing mark)
    (hopening : r.avoids opening = true) (hclosing : r.avoids closing = true)
    (hnew : r.search mark = false) (hrw : Rewrites mark front front')
    (h : r.search front = false) : r.search front' = false := by
  rw [Bool.eq_false_iff]
  intro hfound
  obtain ⟨w, hw, hword⟩ := search_iff.mp hfound
  have hempty : w ≠ [] := by
    rintro rfl
    rw [search_iff.mpr ⟨[], List.nil_infix, hword⟩] at h
    cases h
  have hopen : opening ∉ w.tail := fun hmem =>
    not_mem_of_avoids hopening hword (List.mem_of_mem_tail hmem)
  have hclose : closing ∉ w.dropLast := fun hmem =>
    not_mem_of_avoids hclosing hword (List.mem_of_mem_dropLast hmem)
  rcases hrw.infix_cases hmark hempty hw hopen hclose with hold | hin
  · rw [search_iff.mpr ⟨w, hold, hword⟩] at h
    cases h
  · rw [search_iff.mpr ⟨w, hin, hword⟩] at hnew
    cases hnew

/-! ### Substitutions in a text of marks -/

def Outside (r : Regex α) (marks : List (List α)) : Prop :=
  ∀ mark ∈ marks, ∀ part, part ≠ [] → part <:+ mark → ∀ rest, r.matchAt (part ++ rest) = none

/-- A match that begins in a mark would be inside of it. -/
theorem outside_of_search {marks : List (List α)} (hclosing : r.avoids closing = true)
    (hbracketed : ∀ mark ∈ marks, Bracketed opening closing mark)
    (hnone : ∀ mark ∈ marks, r.search mark = false) : r.Outside marks := by
  intro mark hmark part hne hpart rest
  rw [← Option.not_isSome_iff_eq_none, matchAt_isSome_iff]
  rintro ⟨w, hw, hword⟩
  rcases List.prefix_or_prefix_of_prefix hw (List.prefix_append part rest) with hin | hover
  · have hfound := search_iff.mpr ⟨w, hin.isInfix.trans hpart.isInfix, hword⟩
    rw [hnone mark hmark] at hfound
    cases hfound
  · exact not_mem_of_avoids hclosing hword
      (hover.subset ((hbracketed mark hmark).closing_mem hne hpart))

theorem Outside.seq {marks : List (List α)} (h : r.Outside marks) :
    (Regex.seq r s).Outside marks :=
  fun mark hmark part hne hpart rest => matchAt_seq_of_none (h mark hmark part hne hpart rest)

theorem Outside.subFrom {marks : List (List α)} (h : r.Outside marks) {part : List α}
    (hmark : mark ∈ marks) (hpart : part <:+ mark) {other : List α} :
    r.subFrom other 0 (part ++ front) back = part ++ r.subFrom other 0 front back := by
  obtain ⟨hsub, hover⟩ : r.subFrom other 0 part (front ++ back) = part ∧ _ :=
    subFrom_of_none fun tail hne htail => h mark hmark tail hne (htail.trans hpart) (front ++ back)
  rw [subFrom_append, hsub, hover]

/-- A match takes no opening character, or ends where no mark but for its gap goes on. -/
def EndsAtGap (r : Regex α) (opening gap : α) (marks : List (List α)) (ends ends' : Prop) : Prop :=
  ∀ w rest, r.matchAt (w ++ rest) = .some rest →
    (¬ ends ∧ opening ∉ w) ∨
      (ends' ∧ ∀ a ∈ rest.head?, ∀ mark ∈ marks, a ∈ mark → a = gap)

/-- A substitution leaves a text of marks one, if it cuts no mark but at its gap. -/
theorem pieced_subFrom {gap : α} {marks : List (List α)} {letter : α → Prop} {ends ends' : Prop}
    (hmark : mark ∈ marks) (hopens : ∀ mark ∈ marks, ∃ body, mark = opening :: body)
    (hsub : ends → ends') (houtside : r.Outside marks)
    (hends : r.EndsAtGap opening gap marks ends ends')
    (h : Pieced gap marks letter ends front) :
    Pieced gap marks letter ends' (r.subFrom mark 0 front back) := by
  generalize hlength : front.length = length
  induction length using Nat.strong_induction_on generalizing front with
  | _ length ih =>
  subst hlength
  cases h with
  | nil => exact .nil
  | @mark other rest hother h =>
      obtain ⟨body, hbody⟩ := hopens other hother
      rw [houtside.subFrom hother List.suffix_rfl]
      refine .mark hother (ih rest.length ?_ h rfl)
      rw [hbody, List.length_append, List.length_cons]
      omega
  | @tail other part rest hcut hother hpart h =>
      rw [houtside.subFrom hother hpart]
      refine .tail (hsub hcut) hother hpart (ih rest.length ?_ h rfl)
      rw [List.length_append, List.length_cons]
      omega
  | @other a rest ha h =>
      rw [Regex.subFrom]
      cases htakes : r.takes (a :: rest ++ back) with
      | zero => exact .other ha (ih rest.length (Nat.lt_succ_self _) h rfl)
      | succ n =>
      refine .mark hmark ?_
      rcases Nat.lt_or_ge rest.length n with hover | hle
      · rw [subFrom_skip_all hover.le]
        exact .nil
      rw [subFrom_skip hle]
      obtain ⟨w, left, htext, -, hw, hmatch⟩ := word_of_takes (r := r) (by rw [htakes]; simp)
      rw [htakes] at hw
      -- the match is the character with the first `n` of the rest
      obtain ⟨rfl, rfl⟩ : w = a :: rest.take n ∧ left = rest.drop n ++ back := by
        refine List.append_inj (htext.symm.trans ?_) ?_
        · rw [List.cons_append, List.cons_append, ← List.append_assoc, List.take_append_drop]
        · rw [hw, List.length_cons, List.length_take, Nat.min_eq_left hle]
      rw [htext] at hmatch
      have hcut : Pieced gap marks letter ends (rest.take n ++ rest.drop n) := by
        rw [List.take_append_drop]
        exact h
      have hshorter : (rest.drop n).length < (a :: rest).length := by
        rw [List.length_drop, List.length_cons]
        omega
      rcases hcut.drop_cases with hrest | ⟨other, hother, before, after, more, hbefore, hafter,
        htake, hsuffix, hwhole, hdrop, hmore⟩
      · exact ih _ hshorter hrest rfl
      rw [hdrop] at hmatch hshorter ⊢
      obtain ⟨c, after, rfl⟩ := List.exists_cons_of_ne_nil hafter
      rcases hends _ _ hmatch with ⟨hno, hopen⟩ | ⟨hyes, hgap⟩
      · -- the match would have the start of the mark
        obtain ⟨body, hbody⟩ := hopens other hother
        obtain ⟨d, before, rfl⟩ := List.exists_cons_of_ne_nil hbefore
        rw [hwhole hno, List.cons_append, List.cons.injEq] at hbody
        rw [← hbody.1] at hopen
        exact absurd (List.mem_cons_of_mem a (htake.subset List.mem_cons_self)) hopen
      · obtain rfl := hgap c rfl other hother (hsuffix.subset List.mem_cons_self)
        rw [houtside.subFrom hother hsuffix]
        refine .tail hyes hother hsuffix (ih _ ?_ hmore rfl)
        rw [List.length_append, List.length_cons] at hshorter
        omega

end Marks

end Kin.Lib.Regex
