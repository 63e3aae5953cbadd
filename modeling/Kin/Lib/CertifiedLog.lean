import Mathlib.Data.List.Basic

/-!
Append-only logs that hold certificates about themselves. An entry has an order, and a
certificate records what a reader made of everything before it. Reading the log again
up to the certificate's order gives the recorded value, whatever was appended since.
-/

namespace Kin.Lib

section

variable {ε β : Type} (order : ε → Int)

def through (k : Int) (log : List ε) : List ε := log.filter fun e => decide (order e ≤ k)

/-- The last entry that satisfies `p`. -/
def latest (p : ε → Bool) (log : List ε) : Option ε := log.reverse.find? p

def Certified (read : List ε → β) (isCertificate : ε → Bool) (records : ε → β → Prop)
    (log : List ε) : Prop :=
  ∀ e, latest isCertificate log = some e → records e (read (through order (order e - 1) log))

variable {order} {p : ε → Bool} {log : List ε} {e : ε}

/-- Entries of a larger order do not change what is read up to `k`. -/
theorem through_append_of_lt {k : Int} {later : List ε} (h : ∀ e ∈ later, k < order e) :
    through order k (log ++ later) = through order k log := by
  have hlater : through order k later = [] := by
    unfold through
    rw [List.filter_eq_nil_iff]
    intro x hx
    simpa using h x hx
  unfold through at hlater ⊢
  rw [List.filter_append, hlater, List.append_nil]

theorem through_of_le {k : Int} (h : ∀ e ∈ log, order e ≤ k) : through order k log = log := by
  unfold through
  rw [List.filter_eq_self]
  intro x hx
  simpa using h x hx

theorem mem_of_latest (h : latest p log = some e) : e ∈ log :=
  List.mem_reverse.mp (List.mem_of_find?_eq_some h)

theorem latest_append_of_none {later : List ε} (h : ∀ x ∈ later, p x = false) :
    latest p (log ++ later) = latest p log := by
  have hnone : later.reverse.find? p = none := by
    rw [List.find?_eq_none]
    intro x hx
    simp [h x (List.mem_reverse.mp hx)]
  simp only [latest, List.reverse_append, List.find?_append, hnone, Option.none_or]

theorem latest_concat_of_pos (h : p e = true) : latest p (log ++ [e]) = some e := by
  simp [latest, h]

theorem latest_eq_none : latest p log = none ↔ ∀ x ∈ log, p x = false := by
  simp [latest]

section

variable {read : List ε → β} {isCertificate : ε → Bool} {records : ε → β → Prop}

theorem certified_of_none (h : latest isCertificate log = none) :
    Certified order read isCertificate records log := by
  intro x hx
  rw [h] at hx
  cases hx

/-- Entries that are no certificates and come after the whole log leave it certified. -/
theorem Certified.append {later : List ε} (h : Certified order read isCertificate records log)
    (hplain : ∀ x ∈ later, isCertificate x = false)
    (horder : ∀ x ∈ log, ∀ y ∈ later, order x < order y) :
    Certified order read isCertificate records (log ++ later) := by
  intro x hx
  rw [latest_append_of_none hplain] at hx
  have hmem := mem_of_latest hx
  rw [through_append_of_lt fun y hy => by have := horder x hmem y hy; omega]
  exact h x hx

theorem certified_concat (hcertificate : isCertificate e = true) (hrecords : records e (read log))
    (horder : ∀ x ∈ log, order x < order e) :
    Certified order read isCertificate records (log ++ [e]) := by
  intro x hx
  rw [latest_concat_of_pos hcertificate, Option.some.injEq] at hx
  subst hx
  rw [through_append_of_lt fun y hy => by rw [List.mem_singleton.mp hy]; omega,
    through_of_le fun y hy => by have := horder y hy; omega]
  exact hrecords

end

end

end Kin.Lib
