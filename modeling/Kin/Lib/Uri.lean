import Mathlib.Data.List.Basic
import Mathlib.Data.List.TakeWhile
import Mathlib.Tactic.Linarith

/-!
Generic URI references: their five components, and the resolution of a reference
against a base URI with the removal of dot segments, for text of any kind. Every
text is a reference; the components read it from left to right.
-/

namespace Kin.Lib

structure Uri where
  scheme : Option (List Char) := none
  authority : Option (List Char) := none
  path : List Char := []
  query : Option (List Char) := none
  fragment : Option (List Char) := none
  deriving DecidableEq

namespace Uri

/-! ### Components -/

/-- The characters of a path end at a query or a fragment. -/
def inPath (c : Char) : Bool := c != '?' && c != '#'

/-- The characters of an authority end at a path, a query or a fragment. -/
def inAuthority (c : Char) : Bool := c != '/' && inPath c

/-- The characters of a scheme end at a colon too. -/
def inScheme (c : Char) : Bool := c != ':' && inAuthority c

def splitScheme (text : List Char) : Option (List Char) × List Char :=
  match text.takeWhile inScheme, text.dropWhile inScheme with
  | c :: name, ':' :: rest => (some (c :: name), rest)
  | _, _ => (none, text)

def splitAuthority : List Char → Option (List Char) × List Char
  | '/' :: '/' :: rest => (some (rest.takeWhile inAuthority), rest.dropWhile inAuthority)
  | text => (none, text)

/-- The query and the fragment, from the text behind the path. -/
def splitTail : List Char → Option (List Char) × Option (List Char)
  | '?' :: rest =>
      (some (rest.takeWhile (· != '#')), (rest.dropWhile (· != '#')).tail?)
  | '#' :: rest => (none, some rest)
  | _ => (none, none)

def parse (text : List Char) : Uri :=
  let (scheme, rest) := splitScheme text
  let (authority, rest) := splitAuthority rest
  let (query, fragment) := splitTail (rest.dropWhile inPath)
  { scheme, authority, path := rest.takeWhile inPath, query, fragment }

def origin (u : Uri) : List Char :=
  (u.scheme.elim [] fun s => s ++ [':']) ++ u.authority.elim [] fun a => '/' :: '/' :: a

/-- The URI without its query and its fragment, as text. -/
def endpoint (u : Uri) : List Char := u.origin ++ u.path

/-! ### Dot segments -/

/-- The text of segments that each follow a slash. -/
def slashed (segments : List (List Char)) : List Char := segments.flatMap fun s => '/' :: s

def isDot (segment : List Char) : Bool := segment == ['.'] || segment == ['.', '.']

/-- The segments left of a path, the last one first, each with its slash. A single dot
is dropped, a double dot takes the segment before it along, and either one leaves a
slash where it ends the path. -/
def dropDots : List (List Char) → List (List Char) → List (List Char)
  | kept, [] => kept
  | kept, s :: segments =>
      if s = ['.'] then dropDots (if segments = [] then ['/'] :: kept else kept) segments
      else if s = ['.', '.'] then
        dropDots (if segments = [] then ['/'] :: kept.tail else kept.tail) segments
      else dropDots (('/' :: s) :: kept) segments

def removeDotSegments : List Char → List Char
  | '/' :: rest => (dropDots [] (rest.splitOn '/')).reverse.flatten
  | path =>
      match (path.splitOn '/').dropWhile isDot with
      | [] => []
      | s :: segments => (dropDots [s] segments).reverse.flatten

/-! ### Resolution -/

/-- A relative path, put in place of the last segment of the base path. -/
def merge (base : Uri) (path : List Char) : List Char :=
  if base.authority.isSome ∧ base.path = [] then '/' :: path
  else (base.path.reverse.dropWhile (· != '/')).reverse ++ path

def resolve (base : Uri) (reference : List Char) : Uri :=
  let r := parse reference
  if r.scheme.isSome then { r with path := removeDotSegments r.path }
  else if r.authority.isSome then
    { r with scheme := base.scheme, path := removeDotSegments r.path }
  else if r.path = [] then
    { base with query := r.query.or base.query, fragment := r.fragment }
  else
    { scheme := base.scheme
      authority := base.authority
      path :=
        if r.path.head? = some '/' then removeDotSegments r.path
        else removeDotSegments (merge base r.path)
      query := r.query
      fragment := r.fragment }

/-! ### The text of a URI -/

theorem inAuthority_of_inScheme {c : Char} (h : inScheme c = true) : inAuthority c = true := by
  simp only [inScheme, Bool.and_eq_true] at h
  exact h.2

theorem inPath_of_inAuthority {c : Char} (h : inAuthority c = true) : inPath c = true := by
  simp only [inAuthority, Bool.and_eq_true] at h
  exact h.2

theorem splitScheme_spec (text : List Char) :
    ((splitScheme text).1.elim [] fun s => s ++ [':']) ++ (splitScheme text).2 = text ∧
      ∀ s ∈ (splitScheme text).1, ∀ c ∈ s, inScheme c = true := by
  unfold splitScheme
  split
  · rename_i c name rest hname hrest
    constructor
    · change (c :: name) ++ [':'] ++ rest = text
      rw [← hname, List.append_assoc, List.singleton_append, ← hrest]
      exact List.takeWhile_append_dropWhile
    · rintro s ⟨⟩ c' hc'
      rw [← hname] at hc'
      exact List.mem_takeWhile_imp hc'
  · exact ⟨rfl, fun s hs => nomatch hs⟩

theorem splitAuthority_spec (text : List Char) :
    ((splitAuthority text).1.elim [] fun a => '/' :: '/' :: a) ++ (splitAuthority text).2 = text ∧
      ∀ a ∈ (splitAuthority text).1, ∀ c ∈ a, inAuthority c = true := by
  unfold splitAuthority
  split
  · rename_i rest
    constructor
    · change '/' :: '/' :: (rest.takeWhile inAuthority ++ rest.dropWhile inAuthority) = _
      rw [List.takeWhile_append_dropWhile]
    · rintro a ⟨⟩ c hc
      exact List.mem_takeWhile_imp hc
  · exact ⟨rfl, fun a ha => nomatch ha⟩

/-- Without query and fragment, a text is a URI up to its first `?` or `#`. -/
theorem endpoint_parse (text : List Char) : (parse text).endpoint = text.takeWhile inPath := by
  obtain ⟨hscheme, hschemeChars⟩ := splitScheme_spec text
  obtain ⟨hauthority, hauthorityChars⟩ := splitAuthority_spec (splitScheme text).2
  have horigin : ∀ c ∈ (parse text).origin, inPath c = true := by
    intro c hc
    rcases List.mem_append.mp hc with hc | hc
    · change c ∈ (splitScheme text).1.elim [] _ at hc
      cases hs : (splitScheme text).1 with
      | none => rw [hs] at hc; cases hc
      | some name =>
          rw [hs] at hc
          rcases List.mem_append.mp hc with hc | hc
          · exact inPath_of_inAuthority (inAuthority_of_inScheme (hschemeChars name hs c hc))
          · rw [List.mem_singleton.mp hc]
            decide
    · change c ∈ (splitAuthority (splitScheme text).2).1.elim [] _ at hc
      cases ha : (splitAuthority (splitScheme text).2).1 with
      | none => rw [ha] at hc; cases hc
      | some name =>
          rw [ha] at hc
          rcases List.mem_cons.mp hc with rfl | hc
          · decide
          rcases List.mem_cons.mp hc with rfl | hc
          · decide
          · exact inPath_of_inAuthority (hauthorityChars name ha c hc)
  have htext : (parse text).origin ++ (splitAuthority (splitScheme text).2).2 = text := by
    have hsplit : (parse text).origin =
        ((splitScheme text).1.elim [] fun s => s ++ [':']) ++
          (splitAuthority (splitScheme text).2).1.elim [] fun a => '/' :: '/' :: a := rfl
    rw [hsplit, List.append_assoc, hauthority, hscheme]
  calc (parse text).endpoint
      = (parse text).origin ++ (splitAuthority (splitScheme text).2).2.takeWhile inPath := rfl
    _ = ((parse text).origin ++ (splitAuthority (splitScheme text).2).2).takeWhile inPath :=
        (List.takeWhile_append_of_pos horigin).symm
    _ = text.takeWhile inPath := by rw [htext]

/-- An absolute path that does not start an authority has no other component in front
of its path. -/
theorem parse_absolute {rest : List Char} (h : rest.head? ≠ some '/') :
    (parse ('/' :: rest)).scheme = none ∧ (parse ('/' :: rest)).authority = none ∧
      (parse ('/' :: rest)).path = ('/' :: rest).takeWhile inPath := by
  have hscheme : splitScheme ('/' :: rest) = (none, '/' :: rest) := rfl
  have hauthority : splitAuthority ('/' :: rest) = (none, '/' :: rest) := by
    unfold splitAuthority
    split
    · rename_i heq
      cases heq
      exact absurd rfl h
    · rfl
  unfold parse
  rw [hscheme]
  dsimp only
  rw [hauthority]
  exact ⟨rfl, rfl, rfl⟩

/-- A reference that is an absolute path keeps the origin of the base and nothing of
its path. -/
theorem resolve_absolute (base : Uri) {rest : List Char} (h : rest.head? ≠ some '/') :
    (resolve base ('/' :: rest)).origin = base.origin ∧
      (resolve base ('/' :: rest)).path =
        removeDotSegments (('/' :: rest).takeWhile inPath) := by
  obtain ⟨hscheme, hauthority, hpath⟩ := parse_absolute h
  have hslash : inPath '/' = true := by decide
  unfold resolve
  dsimp only
  rw [hscheme, hauthority, hpath, List.takeWhile_cons_of_pos hslash]
  simp [origin]

/-! ### What is left of a path -/

@[simp] theorem slashed_nil : slashed [] = [] := rfl

@[simp] theorem slashed_cons (s : List Char) (segments : List (List Char)) :
    slashed (s :: segments) = '/' :: s ++ slashed segments := rfl

@[simp] theorem slashed_append (segments segments' : List (List Char)) :
    slashed (segments ++ segments') = slashed segments ++ slashed segments' := by
  simp [slashed]

theorem slashed_splitOn (rest : List Char) : slashed (rest.splitOn '/') = '/' :: rest := by
  induction rest with
  | nil => rfl
  | cons c rest ih =>
      rw [List.splitOn_cons_eq_if_modifyHead]
      split
      · rename_i hc
        rw [slashed_cons, ih, beq_iff_eq.mp hc]
        rfl
      · cases hsegments : rest.splitOn '/' with
        | nil => exact absurd hsegments (List.splitOn_ne_nil '/' rest)
        | cons s segments =>
            rw [hsegments, slashed_cons] at ih
            simp only [List.modifyHead_cons, slashed_cons, List.cons_append]
            rw [List.cons_append] at ih
            rw [List.cons.inj ih |>.2]

theorem not_isDot {s : List Char} : isDot s = false ↔ s ≠ ['.'] ∧ s ≠ ['.', '.'] := by
  simp [isDot]

theorem length_flatten_tail_le (kept : List (List Char)) :
    kept.tail.flatten.length ≤ kept.flatten.length := by
  cases kept with
  | nil => exact Nat.le_refl _
  | cons k kept =>
      rw [List.flatten_cons, List.length_append]
      exact Nat.le_add_left _ _

/-- A dot segment adds a slash at most, and does so at the end. -/
theorem dropDots_cons_of_isDot (kept segments : List (List Char)) {s : List Char}
    (hs : isDot s = true) :
    ∃ kept', dropDots kept (s :: segments) = dropDots kept' segments ∧
      kept'.flatten.length ≤ kept.flatten.length + 1 ∧
      (segments = [] → kept'.head? = some ['/']) := by
  have htail := length_flatten_tail_le kept
  conv in dropDots kept (s :: segments) => unfold dropDots
  by_cases hsingle : s = ['.']
  · rw [if_pos hsingle]
    refine ⟨_, rfl, ?_, fun hlast => ?_⟩
    · split
      · rw [List.flatten_cons, List.length_append, List.length_singleton]
        omega
      · omega
    · rw [if_pos hlast]
      rfl
  · rw [if_neg hsingle]
    by_cases hdouble : s = ['.', '.']
    · rw [if_pos hdouble]
      refine ⟨_, rfl, ?_, fun hlast => ?_⟩
      · split
        · rw [List.flatten_cons, List.length_append, List.length_singleton]
          omega
        · omega
      · rw [if_pos hlast]
        rfl
    · rw [not_isDot.mpr ⟨hsingle, hdouble⟩] at hs
      cases hs

theorem dropDots_cons_of_not_isDot (kept segments : List (List Char)) {s : List Char}
    (hs : isDot s = false) :
    dropDots kept (s :: segments) = dropDots (('/' :: s) :: kept) segments := by
  obtain ⟨hsingle, hdouble⟩ := not_isDot.mp hs
  conv => lhs; unfold dropDots
  rw [if_neg hsingle, if_neg hdouble]

theorem dropDots_of_not_isDot (kept : List (List Char)) {segments : List (List Char)}
    (h : ∀ s ∈ segments, isDot s = false) :
    (dropDots kept segments).reverse.flatten = kept.reverse.flatten ++ slashed segments := by
  induction segments generalizing kept with
  | nil => simp [dropDots]
  | cons s segments ih =>
      rw [dropDots_cons_of_not_isDot kept segments (h s List.mem_cons_self),
        ih _ fun s' hs' => h s' (List.mem_cons_of_mem s hs')]
      simp

/-- Every dot segment makes the path shorter. -/
theorem length_dropDots (kept segments : List (List Char)) :
    (dropDots kept segments).flatten.length + segments.countP isDot ≤
      kept.flatten.length + (slashed segments).length := by
  induction segments generalizing kept with
  | nil => exact Nat.le_refl _
  | cons s segments ih =>
      have hslashed : (slashed (s :: segments)).length =
          s.length + 1 + (slashed segments).length := by
        rw [slashed_cons, List.length_append, List.length_cons]
      cases hs : isDot s with
      | true =>
          obtain ⟨kept', hkept', hgrown, -⟩ := dropDots_cons_of_isDot kept segments hs
          have hlength : 1 ≤ s.length := by
            cases s with
            | nil => cases hs
            | cons c s => simp
          have hle := ih kept'
          rw [hkept', hslashed, List.countP_cons_of_pos hs]
          omega
      | false =>
          have hle := ih (('/' :: s) :: kept)
          rw [List.flatten_cons, List.length_append, List.length_cons] at hle
          rw [dropDots_cons_of_not_isDot kept segments hs, hslashed,
            List.countP_cons_of_neg (by rw [hs]; exact Bool.false_ne_true)]
          omega

theorem removeDotSegments_cons (rest : List Char) :
    removeDotSegments ('/' :: rest) = (dropDots [] (rest.splitOn '/')).reverse.flatten := rfl

theorem length_removeDotSegments (rest : List Char) :
    (removeDotSegments ('/' :: rest)).length + (rest.splitOn '/').countP isDot ≤
      rest.length + 1 := by
  have h := length_dropDots [] (rest.splitOn '/')
  have hreverse : (dropDots [] (rest.splitOn '/')).reverse.flatten.length =
      (dropDots [] (rest.splitOn '/')).flatten.length := by
    simp [List.length_flatten]
  rw [slashed_splitOn] at h
  rw [removeDotSegments_cons, hreverse]
  simpa using h

/-- An absolute path is left as it is just when it has no dot segments. -/
theorem removeDotSegments_eq_self {rest : List Char} :
    removeDotSegments ('/' :: rest) = '/' :: rest ↔ ∀ s ∈ rest.splitOn '/', isDot s = false := by
  constructor
  · intro h
    have hle := length_removeDotSegments rest
    rw [h, List.length_cons] at hle
    have hzero : (rest.splitOn '/').countP isDot = 0 := by omega
    intro s hs
    exact Bool.eq_false_iff.mpr (List.countP_eq_zero.mp hzero s hs)
  · intro h
    rw [removeDotSegments_cons, dropDots_of_not_isDot [] h, slashed_splitOn]
    rfl

/-- A path that ends in a dot segment is left with a slash at its end. -/
theorem getLast?_dropDots (kept segments : List (List Char)) {s : List Char}
    (hs : isDot s = true) :
    (dropDots kept (segments ++ [s])).reverse.flatten.getLast? = some '/' := by
  induction segments generalizing kept with
  | nil =>
      obtain ⟨kept', hkept', -, hlast⟩ := dropDots_cons_of_isDot kept [] hs
      rw [List.nil_append, hkept']
      cases kept' with
      | nil => cases hlast rfl
      | cons k kept' =>
          cases hlast rfl
          simp [dropDots]
  | cons s' segments ih =>
      rw [List.cons_append]
      cases hs' : isDot s' with
      | true =>
          obtain ⟨kept', hkept', -, -⟩ := dropDots_cons_of_isDot kept (segments ++ [s]) hs'
          rw [hkept']
          exact ih kept'
      | false =>
          rw [dropDots_cons_of_not_isDot kept (segments ++ [s]) hs']
          exact ih _

end Uri

end Kin.Lib
