import Mathlib.Data.List.Basic

/-!
Codes of which no word is the beginning of another, so that a text is read back from the left
whatever follows it. A reader of single words gives the property; pairs of words, words behind
a mark, texts up to a closing mark and lists with a separator have it again.
-/

namespace Kin.Lib

variable {α β γ : Type}

/-- The words of the symbols in `P` can be read back from the left. -/
def PrefixCode (P : α → Prop) (e : α → List β) : Prop :=
  ∀ ⦃a b r s⦄, P a → P b → e a ++ r = e b ++ s → a = b ∧ r = s

/-- No word begins with the mark, and none is empty. -/
def Avoids (P : α → Prop) (e : α → List β) (mark : β) : Prop :=
  ∀ a, P a → ∃ x xs, e a = x :: xs ∧ x ≠ mark

def joinWith (separator : β) : List (List β) → List β
  | [] => []
  | [text] => text
  | text :: next :: texts => text ++ separator :: joinWith separator (next :: texts)

section

variable {P : α → Prop} {Q : γ → Prop} {e : α → List β} {f : γ → List β}

theorem prefixCode_of_reader {read : List β → Option (α × List β)}
    (hread : ∀ a r, P a → read (e a ++ r) = some (a, r)) : PrefixCode P e := by
  intro a b r s ha hb heq
  have hfirst := hread a r ha
  rw [heq, hread b s hb] at hfirst
  cases hfirst
  exact ⟨rfl, rfl⟩

theorem PrefixCode.mono {R : α → Prop} (h : PrefixCode P e) (himp : ∀ a, R a → P a) :
    PrefixCode R e :=
  fun _ _ _ _ ha hb heq => h (himp _ ha) (himp _ hb) heq

/-- Symbols under other names. -/
theorem PrefixCode.comp (h : PrefixCode P e) {g : γ → α} (hg : Function.Injective g)
    (himp : ∀ c, Q c → P (g c)) : PrefixCode Q fun c => e (g c) := by
  intro c d r s hc hd heq
  obtain ⟨hname, hrest⟩ := h (himp c hc) (himp d hd) heq
  exact ⟨hg hname, hrest⟩

/-- A mark in front of every word. -/
theorem PrefixCode.cons (h : PrefixCode P e) (mark : β) : PrefixCode P fun a => mark :: e a := by
  intro a b r s ha hb heq
  exact h ha hb (List.cons.inj heq).2

/-- One word after the other. -/
theorem PrefixCode.append (h : PrefixCode P e) (h' : PrefixCode Q f) :
    PrefixCode (fun p : α × γ => P p.1 ∧ Q p.2) fun p => e p.1 ++ f p.2 := by
  rintro ⟨a, c⟩ ⟨b, d⟩ r s ⟨ha, hc⟩ ⟨hb, hd⟩ heq
  rw [List.append_assoc, List.append_assoc] at heq
  obtain ⟨rfl, heq⟩ := h ha hb heq
  obtain ⟨rfl, hrest⟩ := h' hc hd heq
  exact ⟨rfl, hrest⟩

theorem Avoids.ne (h : Avoids P e mark) {a : α} (ha : P a) (r s : List β) :
    e a ++ r ≠ mark :: s := by
  obtain ⟨x, xs, hword, hne⟩ := h a ha
  rw [hword]
  intro heq
  exact hne (List.cons.inj heq).1

theorem flatMap_until_inj (h : PrefixCode P e) {mark : β} (hmark : Avoids P e mark)
    {text other : List α} {r s : List β} (htext : ∀ a ∈ text, P a) (hother : ∀ a ∈ other, P a)
    (heq : text.flatMap e ++ mark :: r = other.flatMap e ++ mark :: s) : text = other ∧ r = s := by
  induction text generalizing other with
  | nil =>
      cases other with
      | nil => exact ⟨rfl, (List.cons.inj heq).2⟩
      | cons b other =>
          rw [List.flatMap_cons, List.append_assoc] at heq
          exact absurd heq.symm (hmark.ne (hother b List.mem_cons_self) _ _)
  | cons a text ih =>
      cases other with
      | nil =>
          rw [List.flatMap_cons, List.append_assoc] at heq
          exact absurd heq (hmark.ne (htext a List.mem_cons_self) _ _)
      | cons b other =>
          rw [List.flatMap_cons, List.flatMap_cons, List.append_assoc, List.append_assoc] at heq
          obtain ⟨rfl, htail⟩ := h (htext a List.mem_cons_self) (hother b List.mem_cons_self) heq
          obtain ⟨rfl, hrest⟩ := ih (fun x hx => htext x (List.mem_cons_of_mem a hx))
            (fun x hx => hother x (List.mem_cons_of_mem a hx)) htail
          exact ⟨rfl, hrest⟩

/-- A text of words up to a mark that begins none of them. -/
theorem PrefixCode.until (h : PrefixCode P e) {mark : β} (hmark : Avoids P e mark) :
    PrefixCode (fun text : List α => ∀ a ∈ text, P a) fun text => text.flatMap e ++ [mark] := by
  intro text other r s htext hother heq
  simp only [List.append_assoc, List.singleton_append] at heq
  exact flatMap_until_inj h hmark htext hother heq

theorem PrefixCode.flatMap_injective (h : PrefixCode P e) (hne : ∀ a, P a → e a ≠ [])
    {text other : List α} (htext : ∀ a ∈ text, P a) (hother : ∀ a ∈ other, P a)
    (heq : text.flatMap e = other.flatMap e) : text = other := by
  induction text generalizing other with
  | nil =>
      cases other with
      | nil => rfl
      | cons b other =>
          rw [List.flatMap_cons, List.flatMap_nil] at heq
          exact absurd (List.append_eq_nil_iff.mp heq.symm).1 (hne b (hother b List.mem_cons_self))
  | cons a text ih =>
      cases other with
      | nil =>
          rw [List.flatMap_cons, List.flatMap_nil] at heq
          exact absurd (List.append_eq_nil_iff.mp heq).1 (hne a (htext a List.mem_cons_self))
      | cons b other =>
          rw [List.flatMap_cons, List.flatMap_cons] at heq
          obtain ⟨rfl, hrest⟩ := h (htext a List.mem_cons_self) (hother b List.mem_cons_self) heq
          rw [ih (fun x hx => htext x (List.mem_cons_of_mem a hx))
            (fun x hx => hother x (List.mem_cons_of_mem a hx)) hrest]

theorem joinWith_cons (separator : β) (text : List β) (texts : List (List β)) :
    joinWith separator (text :: texts) = text ++ texts.flatMap (separator :: ·) := by
  induction texts generalizing text with
  | nil => simp [joinWith]
  | cons next texts ih => rw [joinWith, ih, List.flatMap_cons, List.cons_append]

/-- A list of words with a separator in between, up to a closing mark. -/
theorem PrefixCode.separated (h : PrefixCode P e) {separator mark : β} (hmark : Avoids P e mark)
    (hne : separator ≠ mark) :
    PrefixCode (fun text : List α => ∀ a ∈ text, P a) fun text =>
      joinWith separator (text.map e) ++ [mark] := by
  have hfollow : Avoids P (fun a => separator :: e a) mark := fun a _ => ⟨separator, e a, rfl, hne⟩
  intro text other r s htext hother heq
  simp only [List.append_assoc, List.singleton_append] at heq
  cases text with
  | nil =>
      cases other with
      | nil => exact ⟨rfl, (List.cons.inj heq).2⟩
      | cons b other =>
          rw [List.map_cons, joinWith_cons, List.append_assoc] at heq
          exact absurd heq.symm (hmark.ne (hother b List.mem_cons_self) _ _)
  | cons a text =>
      cases other with
      | nil =>
          rw [List.map_cons, joinWith_cons, List.append_assoc] at heq
          exact absurd heq (hmark.ne (htext a List.mem_cons_self) _ _)
      | cons b other =>
          rw [List.map_cons, List.map_cons, joinWith_cons, joinWith_cons, List.append_assoc,
            List.append_assoc, List.flatMap_map, List.flatMap_map] at heq
          obtain ⟨rfl, htail⟩ := h (htext a List.mem_cons_self) (hother b List.mem_cons_self) heq
          obtain ⟨rfl, hrest⟩ := flatMap_until_inj (h.cons separator) hfollow
            (fun x hx => htext x (List.mem_cons_of_mem a hx))
            (fun x hx => hother x (List.mem_cons_of_mem a hx)) htail
          exact ⟨rfl, hrest⟩

end

/-! ### Letters for bytes -/

def byteLetter (b : UInt8) : Char := Char.ofNat b.toNat

theorem toNat_byteLetter (b : UInt8) : (byteLetter b).toNat = b.toNat := by
  have hvalid : b.toNat.isValidChar := by
    have hbound := b.toNat_lt
    exact .inl (by omega)
  rw [byteLetter, Char.ofNat, dif_pos hvalid]
  rfl

theorem byteLetter_injective : Function.Injective byteLetter := by
  intro a b h
  refine UInt8.toNat_inj.mp ?_
  rw [← toNat_byteLetter a, ← toNat_byteLetter b, h]

end Kin.Lib
