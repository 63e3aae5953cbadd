import Mathlib.Data.List.Pairwise
import Mathlib.Order.Interval.Set.Basic

/-!
Windows of time that are booked for resources. A window is half open, so that one
booking may begin where another ends; a list of bookings stays free of clashes when a
resource is booked only while it is free.
-/

namespace Kin.Lib

section

variable {κ τ : Type} [LinearOrder τ]

structure Window (τ : Type) [LinearOrder τ] where
  starts : τ
  ends : τ
  ordered : starts < ends

def Window.span (w : Window τ) : Set τ := Set.Ico w.starts w.ends

def Window.Meets (a b : Window τ) : Prop := (a.span ∩ b.span).Nonempty

theorem Window.meets_iff (a b : Window τ) :
    a.Meets b ↔ a.starts < b.ends ∧ b.starts < a.ends := by
  have ha := a.ordered
  have hb := b.ordered
  constructor
  · rintro ⟨t, ⟨hat, hta⟩, hbt, htb⟩
    exact ⟨lt_of_le_of_lt hat htb, lt_of_le_of_lt hbt hta⟩
  · rintro ⟨hab, hba⟩
    -- the later of the two beginnings
    exact ⟨max a.starts b.starts, ⟨le_max_left .., max_lt ha hba⟩, le_max_right .., max_lt hab hb⟩

instance Window.decidableMeets (a b : Window τ) : Decidable (a.Meets b) :=
  decidable_of_iff _ (Window.meets_iff a b).symm

def NoClash (bookings : List (κ × Window τ)) : Prop :=
  bookings.Pairwise fun a b => a.1 = b.1 → ¬a.2.Meets b.2

def FreeDuring (bookings : List (κ × Window τ)) (k : κ) (w : Window τ) : Prop :=
  ∀ booking ∈ bookings, booking.1 = k → ¬booking.2.Meets w

theorem noClash_nil : NoClash ([] : List (κ × Window τ)) := List.Pairwise.nil

/-- A free resource may be booked. -/
theorem NoClash.book {bookings : List (κ × Window τ)} {k : κ} {w : Window τ}
    (h : NoClash bookings) (hfree : FreeDuring bookings k w) : NoClash (bookings ++ [(k, w)]) := by
  refine List.pairwise_append.mpr ⟨h, List.pairwise_singleton .., ?_⟩
  intro booking hbooking other hother hsame
  rw [List.mem_singleton.mp hother] at hsame ⊢
  exact hfree booking hbooking hsame

end

end Kin.Lib
