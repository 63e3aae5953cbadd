import Mathlib.Data.Rat.Cast.Defs
import Kin.Py.Value

/-!
Equality of JSON documents: objects by their keys, arrays by position. Two
readings of the leaves matter. For a canonical form the integer `1` and the float
`1.0` are the same number; `json.dumps` writes them differently.
-/

namespace Kin.Py

def Json.number? : Json → Option ℚ
  | .int n => some n
  | .float (.finite q) => some q
  | .float .negZero => some 0
  | _ => none

/-- `d.get(key)` for any string key. -/
def Fields.lookup (fields : Fields) (key : PyStr) : Option Json :=
  (fields.find? fun e => decide (e.1 = key)).map (·.2)

/-- The same document, with leaves that are equal or that `leaves` identifies. -/
inductive Alike (leaves : Json → Json → Prop) : Json → Json → Prop
  | refl (v : Json) : Alike leaves v v
  | leaf {v w : Json} (h : leaves v w) : Alike leaves v w
  | arr {items items' : List Json} (length : items.length = items'.length)
      (values : ∀ (i : Nat) v w, items[i]? = some v → items'[i]? = some w → Alike leaves v w) :
      Alike leaves (.arr items) (.arr items')
  | obj {fields fields' : Fields}
      (keys : ∀ k, (Fields.lookup fields k).isSome = (Fields.lookup fields' k).isSome)
      (values : ∀ k v w, Fields.lookup fields k = some v → Fields.lookup fields' k = some w →
        Alike leaves v w) :
      Alike leaves (.obj fields) (.obj fields')

def SameNumber (v w : Json) : Prop := ∃ q, v.number? = some q ∧ w.number? = some q

/-- The same JSON document, whatever way its numbers are written. -/
abbrev JsonEq : Json → Json → Prop := Alike SameNumber

/-- The same JSON document with its numbers written the same way, up to the order
of keys. -/
abbrev SameJson : Json → Json → Prop := Alike fun _ _ => False

/-- Documents written the same way are the same. -/
theorem SameJson.jsonEq {v w : Json} (h : SameJson v w) : JsonEq v w := by
  induction h with
  | refl v => exact .refl v
  | leaf h => exact h.elim
  | arr length _ ih => exact .arr length ih
  | obj keys _ ih => exact .obj keys ih

namespace JsonEq

theorem eq_of_text {v : Json} {s : String} (h : JsonEq v (.text s)) : v = .text s := by
  cases h with
  | refl => rfl
  | leaf h =>
      obtain ⟨_, -, hw⟩ := h
      cases hw

/-- Only a number equals an integer. -/
theorem number?_of_int {v : Json} {n : Int} (h : JsonEq v (.int n)) : v.number? = some (n : ℚ) := by
  cases h with
  | refl => rfl
  | leaf h =>
      obtain ⟨_, hv, hw⟩ := h
      cases hw
      exact hv

/-- Equal objects answer a key with equal values. -/
theorem get? {fields fields' : Fields} (h : JsonEq (.obj fields) (.obj fields')) {key : String}
    {w : Json} (hw : Fields.get? fields' key = some w) :
    ∃ v, Fields.get? fields key = some v ∧ JsonEq v w := by
  cases h with
  | refl => exact ⟨w, hw, .refl w⟩
  | leaf h =>
      obtain ⟨_, hv, -⟩ := h
      cases hv
  | obj keys values =>
      have hsome := keys (.text key)
      rw [show Fields.lookup fields' (.text key) = some w from hw, Option.isSome_some] at hsome
      obtain ⟨v, hv⟩ := Option.isSome_iff_exists.mp hsome
      exact ⟨v, hv, values _ v w hv hw⟩

theorem get?_text {fields fields' : Fields} (h : JsonEq (.obj fields) (.obj fields'))
    {key s : String} (hs : Fields.get? fields' key = some (.text s)) :
    Fields.get? fields key = some (.text s) := by
  obtain ⟨v, hv, heq⟩ := h.get? hs
  rw [hv, heq.eq_of_text]

end JsonEq

/-- Dropping one key leaves the others. -/
theorem Fields.get?_without_of_ne {key key' : String} (h : key ≠ key') (fields : Fields) :
    Fields.get? (Fields.without fields key') key = Fields.get? fields key := by
  have hkey : ∀ e : PyStr × Json,
      (!decide (e.1 = .text key') && decide (e.1 = .text key)) = decide (e.1 = .text key) := by
    intro e
    by_cases he : e.1 = .text key
    · simp [he, h]
    · simp [he]
  simp only [Fields.get?, Fields.without, List.find?_filter]
  simp [hkey]

end Kin.Py
