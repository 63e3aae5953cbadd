import Kin.Lib.OrderBy
import Mathlib.Data.List.TakeDrop

/-!
A log whose rows have increasing keys, read from its end in pages: the last rows below a
cursor, and whether there are any before them. What has not been read yet is a first part of
the log, and rows that are appended meanwhile do not change it.
-/

namespace Kin.Lib

variable {ρ : Type} (key : ρ → Int)

def Ascending (log : List ρ) : Prop := log.Pairwise fun a b => key a < key b

/-- `key < cursor`, when there is a cursor. -/
def below (cursor : Option Int) (log : List ρ) : List ρ :=
  log.filter fun r => cursor.all fun k => decide (key r < k)

/-- `ORDER BY key DESC LIMIT n + 1`: the first `n` of these, turned around, and whether the
last one is there. -/
def page (n : Nat) (log : List ρ) : List ρ × Bool :=
  let fetched := log.reverse.take (n + 1)
  ((fetched.take n).reverse, decide (n < fetched.length))

variable {key} {log : List ρ} {r : ρ}

theorem mem_below {cursor : Option Int} :
    r ∈ below key cursor log ↔ r ∈ log ∧ ∀ k ∈ cursor, key r < k := by
  simp [below, Option.all_eq_true]

@[simp] theorem below_none (log : List ρ) : below key none log = log := by
  simp [below]

/-- A page is the end of the log. -/
theorem page_fst (n : Nat) (log : List ρ) : (page n log).1 = log.drop (log.length - n) := by
  have htake : (log.reverse.take (n + 1)).take n = log.reverse.take n := by
    rw [List.take_take, Nat.min_eq_left (Nat.le_succ n)]
  show ((log.reverse.take (n + 1)).take n).reverse = _
  rw [htake, List.take_reverse, List.reverse_reverse]

theorem page_snd (n : Nat) (log : List ρ) : (page n log).2 = decide (n < log.length) := by
  show decide (n < (log.reverse.take (n + 1)).length) = _
  rw [List.length_take, List.length_reverse, decide_eq_decide]
  omega

def unread (n : Nat) (log : List ρ) : List ρ := log.take (log.length - n)

theorem unread_append_page (n : Nat) (log : List ρ) : unread n log ++ (page n log).1 = log := by
  rw [unread, page_fst, List.take_append_drop]

theorem length_unread (n : Nat) (log : List ρ) : (unread n log).length = log.length - n := by
  rw [unread, List.length_take]
  omega

theorem Ascending.below (h : Ascending key log) (cursor : Option Int) :
    Ascending key (below key cursor log) := h.filter _

theorem Ascending.unread (h : Ascending key log) (n : Nat) : Ascending key (unread n log) :=
  h.sublist (List.take_sublist _ _)

/-- Rows in order are given by which rows they are. -/
theorem Ascending.ext {log' : List ρ} (h : Ascending key log) (h' : Ascending key log')
    (hmem : ∀ r, r ∈ log ↔ r ∈ log') : log = log' := by
  have : Std.Irrefl fun a b : ρ => key a < key b := ⟨fun a => by omega⟩
  have : Std.Asymm fun a b : ρ => key a < key b := ⟨fun a b hab => by omega⟩
  exact List.Pairwise.eq_of_mem_iff h h' fun r => hmem r

end Kin.Lib
