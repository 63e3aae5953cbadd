import Mathlib.Data.List.Infix

/-!
Regular expressions without anchors, and a backtracking matcher for them. The matcher
answers what a match leaves of the text, in the order in which the branches are tried;
the language of an expression is what it can take.
-/

namespace Kin.Lib

/-- `many` takes as many characters as it can, `fewest` as few. -/
inductive Regex (α : Type)
  | empty
  | one (p : α → Bool)
  | seq (r s : Regex α)
  | alt (r s : Regex α)
  | many (p : α → Bool)
  | fewest (p : α → Bool)

namespace Regex

variable {α : Type}

/-- The word is in the language of the expression. -/
def Word : Regex α → List α → Prop
  | empty, w => w = []
  | one p, w => ∃ a, w = [a] ∧ p a = true
  | seq r s, w => ∃ u v, w = u ++ v ∧ r.Word u ∧ s.Word v
  | alt r s, w => r.Word w ∨ s.Word w
  | many p, w => ∀ a ∈ w, p a = true
  | fewest p, w => ∀ a ∈ w, p a = true

/-- What is left behind each run of `p` at the front, the longest run first. -/
def runs (p : α → Bool) : List α → List (List α)
  | [] => [[]]
  | a :: as => if p a then runs p as ++ [a :: as] else [a :: as]

/-- What a match at the front leaves, the preferred match first. -/
def rests : Regex α → List α → List (List α)
  | empty, text => [text]
  | one _, [] => []
  | one p, a :: text => if p a then [text] else []
  | seq r s, text => (r.rests text).flatMap s.rests
  | alt r s, text => r.rests text ++ s.rests text
  | many p, text => runs p text
  | fewest p, text => (runs p text).reverse

/-- What the preferred match at the front leaves. -/
def matchAt (r : Regex α) (text : List α) : Option (List α) := (r.rests text).head?

/-- `re.search`: there is a match somewhere. -/
def search (r : Regex α) : List α → Bool
  | [] => (r.matchAt []).isSome
  | a :: text => (r.matchAt (a :: text)).isSome || r.search text

/-! ### Compound expressions -/

def some (p : α → Bool) : Regex α := seq (one p) (many p)

/-- An optional character, taken if it is there. -/
def opt (p : α → Bool) : Regex α := alt (one p) empty

def times : Nat → (α → Bool) → Regex α
  | 0, _ => empty
  | n + 1, p => seq (one p) (times n p)

def atLeast (n : Nat) (p : α → Bool) : Regex α := seq (times n p) (many p)

/-- A text given by what each of its characters may be. -/
def literal (same : α → α → Bool) : List α → Regex α
  | [] => empty
  | a :: as => seq (one (same a)) (literal same as)

/-- Several expressions in a row, and the first of several that matches. -/
def row : List (Regex α) → Regex α
  | [] => empty
  | r :: rs => seq r (row rs)

def firstOf : Regex α → List (Regex α) → Regex α
  | r, [] => r
  | r, s :: rs => alt r (firstOf s rs)

/-! ### Matches -/

variable {r s : Regex α} {p : α → Bool} {text rest w : List α}

theorem mem_runs : rest ∈ runs p text ↔ ∃ w, text = w ++ rest ∧ ∀ a ∈ w, p a = true := by
  induction text with
  | nil =>
      rw [runs, List.mem_singleton]
      constructor
      · rintro rfl
        exact ⟨[], rfl, by simp⟩
      · rintro ⟨w, h, -⟩
        exact (List.append_eq_nil_iff.mp h.symm).2
  | cons a text ih =>
      rw [runs]
      split
      · rename_i ha
        rw [List.mem_append, List.mem_singleton, ih]
        constructor
        · rintro (⟨w, rfl, hw⟩ | rfl)
          · exact ⟨a :: w, rfl, List.forall_mem_cons.mpr ⟨ha, hw⟩⟩
          · exact ⟨[], rfl, by simp⟩
        · rintro ⟨_ | ⟨b, w⟩, h, hw⟩
          · exact .inr h.symm
          · rw [List.cons_append, List.cons.injEq] at h
            exact .inl ⟨w, h.2, (List.forall_mem_cons.mp hw).2⟩
      · rename_i ha
        rw [List.mem_singleton]
        constructor
        · rintro rfl
          exact ⟨[], rfl, by simp⟩
        · rintro ⟨_ | ⟨b, w⟩, h, hw⟩
          · exact h.symm
          · rw [List.cons_append, List.cons.injEq] at h
            rw [h.1] at ha
            exact absurd (hw b List.mem_cons_self) ha

/-- The matcher leaves what remains behind the words of the language, and nothing else. -/
theorem mem_rests : rest ∈ r.rests text ↔ ∃ w, text = w ++ rest ∧ r.Word w := by
  induction r generalizing text rest with
  | empty =>
      rw [rests, List.mem_singleton]
      constructor
      · rintro rfl
        exact ⟨[], rfl, rfl⟩
      · rintro ⟨w, rfl, rfl⟩
        rfl
  | one p =>
      cases text with
      | nil =>
          simp only [rests, List.not_mem_nil, false_iff]
          rintro ⟨w, h, a, rfl, -⟩
          cases h
      | cons a text =>
          rw [rests]
          split
          · rename_i ha
            rw [List.mem_singleton]
            constructor
            · rintro rfl
              exact ⟨[a], rfl, a, rfl, ha⟩
            · rintro ⟨w, h, b, rfl, -⟩
              exact (List.cons.inj h).2.symm
          · rename_i ha
            simp only [List.not_mem_nil, false_iff]
            rintro ⟨w, h, b, rfl, hb⟩
            rw [(List.cons.inj h).1] at ha
            exact ha hb
  | seq r s ihr ihs =>
      rw [rests, List.mem_flatMap]
      constructor
      · rintro ⟨middle, hmiddle, hrest⟩
        obtain ⟨u, rfl, hu⟩ := ihr.mp hmiddle
        obtain ⟨v, rfl, hv⟩ := ihs.mp hrest
        exact ⟨u ++ v, (List.append_assoc u v rest).symm, u, v, rfl, hu, hv⟩
      · rintro ⟨w, rfl, u, v, rfl, hu, hv⟩
        exact ⟨v ++ rest, ihr.mpr ⟨u, List.append_assoc u v rest, hu⟩, ihs.mpr ⟨v, rfl, hv⟩⟩
  | alt r s ihr ihs =>
      rw [rests, List.mem_append, ihr, ihs]
      simp only [Word]
      constructor
      · rintro (⟨w, h, hw⟩ | ⟨w, h, hw⟩)
        · exact ⟨w, h, .inl hw⟩
        · exact ⟨w, h, .inr hw⟩
      · rintro ⟨w, h, hw | hw⟩
        · exact .inl ⟨w, h, hw⟩
        · exact .inr ⟨w, h, hw⟩
  | many p => exact mem_runs
  | fewest p =>
      rw [rests, List.mem_reverse]
      exact mem_runs

/-- The preferred match takes a word of the language. -/
theorem word_of_matchAt (h : r.matchAt text = Option.some rest) :
    ∃ w, text = w ++ rest ∧ r.Word w :=
  mem_rests.mp (List.mem_of_head? h)

theorem matchAt_isSome_iff : (r.matchAt text).isSome = true ↔ ∃ w, w <+: text ∧ r.Word w := by
  rw [matchAt, List.isSome_head?]
  constructor
  · intro hne
    obtain ⟨rest, hrest⟩ := List.exists_mem_of_ne_nil _ hne
    obtain ⟨w, rfl, hw⟩ := mem_rests.mp hrest
    exact ⟨w, List.prefix_append w rest, hw⟩
  · rintro ⟨w, ⟨rest, rfl⟩, hw⟩
    exact List.ne_nil_of_mem (mem_rests.mpr ⟨w, rfl, hw⟩)

/-- A search finds the texts that have a word of the language in them. -/
theorem search_iff : r.search text = true ↔ ∃ w, w <:+: text ∧ r.Word w := by
  induction text with
  | nil =>
      rw [search, matchAt_isSome_iff]
      simp
  | cons a text ih =>
      rw [search, Bool.or_eq_true, matchAt_isSome_iff, ih]
      constructor
      · rintro (⟨w, hprefix, hw⟩ | ⟨w, hinside, hw⟩)
        · exact ⟨w, hprefix.isInfix, hw⟩
        · exact ⟨w, hinside.trans (List.suffix_cons a text).isInfix, hw⟩
      · rintro ⟨w, hinside, hw⟩
        rcases List.infix_cons_iff.mp hinside with hprefix | hinside
        · exact .inl ⟨w, hprefix, hw⟩
        · exact .inr ⟨w, hinside, hw⟩

/-- What is found in a part of a text is found in the text. -/
theorem search_of_infix {part : List α} (h : part <:+: text) (hpart : r.search part = true) :
    r.search text = true := by
  obtain ⟨w, hinside, hw⟩ := search_iff.mp hpart
  exact search_iff.mpr ⟨w, hinside.trans h, hw⟩

/-- Where there is no beginning of a match, there is none. -/
theorem search_seq_eq_false (h : r.search text = false) : (seq r s).search text = false := by
  rw [Bool.eq_false_iff]
  intro hfound
  obtain ⟨_, hinside, u, v, rfl, hu, -⟩ := search_iff.mp hfound
  rw [search_iff.mpr ⟨u, (List.prefix_append u v).isInfix.trans hinside, hu⟩] at h
  cases h

/-! ### Preferred matches -/

variable {a : α}

theorem matchAt_eq_none : r.matchAt text = none ↔ r.rests text = [] :=
  List.head?_eq_none_iff

theorem matchAt_one_of_not (h : p a = false) : (one p).matchAt (a :: text) = none := by
  rw [matchAt, rests, h]
  rfl

/-- A run is taken as far as it goes. -/
theorem matchAt_many : (many p).matchAt text = Option.some (text.dropWhile p) := by
  rw [matchAt, rests]
  induction text with
  | nil => rfl
  | cons a text ih =>
      rw [runs, List.dropWhile_cons]
      split
      · rw [List.head?_append, ih, Option.some_or]
      · rfl

theorem matchAt_seq {m : List α} (hr : r.matchAt text = Option.some m)
    (hs : s.matchAt m = Option.some rest) :
    (seq r s).matchAt text = Option.some rest := by
  obtain ⟨more, hrests⟩ := List.head?_eq_some_iff.mp hr
  rw [matchAt, rests, hrests, List.flatMap_cons, List.head?_append, ← matchAt, hs, Option.some_or]

theorem matchAt_seq_of_none (h : r.matchAt text = none) : (seq r s).matchAt text = none := by
  rw [matchAt, rests, matchAt_eq_none.mp h]
  rfl

theorem exists_of_matchAt_seq (h : (seq r s).matchAt text = Option.some rest) :
    ∃ middle, middle ∈ r.rests text ∧ s.matchAt middle = Option.some rest := by
  rw [matchAt, rests, List.head?_flatMap] at h
  exact List.exists_of_findSome?_eq_some h

theorem matchAt_alt (h : r.matchAt text = none) : (alt r s).matchAt text = s.matchAt text := by
  rw [matchAt, rests, matchAt_eq_none.mp h]
  rfl

theorem matchAt_alt_of_some (h : r.matchAt text = Option.some rest) :
    (alt r s).matchAt text = Option.some rest := by
  rw [matchAt] at h
  rw [matchAt, rests, List.head?_append, h, Option.some_or]

/-- One or more are taken as far as they go. -/
theorem matchAt_some (h : p a = true) :
    (some p).matchAt (a :: text) = Option.some (text.dropWhile p) := by
  refine matchAt_seq (m := text) ?_ matchAt_many
  rw [matchAt, rests, if_pos h]
  rfl

/-- What is left behind a run does not go on with another of its characters. -/
theorem not_of_matchAt_run (h : (seq r (many p)).matchAt text = Option.some rest) :
    ∀ a ∈ rest.head?, p a = false := by
  obtain ⟨middle, -, hmatch⟩ := exists_of_matchAt_seq h
  rw [matchAt_many] at hmatch
  cases hmatch
  intro a ha
  have hhead := List.head?_dropWhile_not p middle
  rw [Option.mem_def.mp ha] at hhead
  exact hhead

theorem matchAt_literal {same : α → α → Bool} {letters : List α}
    (h : (literal same letters).Word w) :
    (literal same letters).matchAt (w ++ rest) = Option.some rest := by
  induction letters generalizing w with
  | nil =>
      cases h
      rfl
  | cons a letters ih =>
      obtain ⟨_, v, rfl, ⟨b, rfl, hb⟩, hv⟩ := h
      refine matchAt_seq (m := v ++ rest) ?_ (ih hv)
      rw [List.append_assoc, List.singleton_append, matchAt, rests, if_pos hb]
      rfl

theorem word_firstOf {rs : List (Regex α)} :
    (firstOf r rs).Word w ↔ ∃ s ∈ r :: rs, s.Word w := by
  induction rs generalizing r with
  | nil => simp [firstOf]
  | cons s rs ih => simp [firstOf, Word, ih]

theorem exists_of_matchAt_firstOf {rs : List (Regex α)}
    (h : (firstOf r rs).matchAt text = Option.some rest) :
    ∃ s ∈ r :: rs, s.matchAt text = Option.some rest := by
  induction rs generalizing r with
  | nil => exact ⟨r, List.mem_singleton.mpr rfl, h⟩
  | cons s rs ih =>
      rw [firstOf] at h
      cases hr : r.matchAt text with
      | none =>
          rw [matchAt_alt hr] at h
          obtain ⟨q, hq, hmatch⟩ := ih h
          exact ⟨q, List.mem_cons_of_mem r hq, hmatch⟩
      | some first =>
          rw [matchAt_alt_of_some hr] at h
          exact ⟨r, List.mem_cons_self, hr.trans h⟩

/-- Those before the first that matches do not count. -/
theorem matchAt_firstOf {before after : List (Regex α)}
    (hbefore : ∀ q ∈ r :: before, q.matchAt text = none)
    (hs : s.matchAt text = Option.some rest) :
    (firstOf r (before ++ s :: after)).matchAt text = Option.some rest := by
  induction before generalizing r with
  | nil =>
      rw [List.nil_append, firstOf, matchAt_alt (hbefore r List.mem_cons_self)]
      cases after with
      | nil => exact hs
      | cons q after => exact matchAt_alt_of_some hs
  | cons q before ih =>
      rw [List.cons_append, firstOf, matchAt_alt (hbefore r List.mem_cons_self)]
      exact ih fun q hq => hbefore q (List.mem_cons_of_mem r hq)

/-! ### Characters that no match takes -/

/-- No part of the expression takes the character. -/
def avoids (a : α) : Regex α → Bool
  | empty => true
  | one p => !p a
  | seq r s => r.avoids a && s.avoids a
  | alt r s => r.avoids a && s.avoids a
  | many p => !p a
  | fewest p => !p a

theorem not_mem_of_avoids (h : r.avoids a = true) (hw : r.Word w) : a ∉ w := by
  intro hmem
  induction r generalizing w with
  | empty =>
      rw [show w = [] from hw] at hmem
      cases hmem
  | one p =>
      obtain ⟨b, rfl, hb⟩ := hw
      cases List.mem_singleton.mp hmem
      rw [avoids, hb] at h
      cases h
  | seq r s ihr ihs =>
      obtain ⟨u, v, rfl, hu, hv⟩ := hw
      rw [avoids, Bool.and_eq_true] at h
      exact (List.mem_append.mp hmem).elim (ihr h.1 hu) (ihs h.2 hv)
  | alt r s ihr ihs =>
      rw [avoids, Bool.and_eq_true] at h
      exact hw.elim (fun hw => ihr h.1 hw hmem) fun hw => ihs h.2 hw hmem
  | many p =>
      rw [avoids, hw a hmem] at h
      cases h
  | fewest p =>
      rw [avoids, hw a hmem] at h
      cases h

end Regex

end Kin.Lib
