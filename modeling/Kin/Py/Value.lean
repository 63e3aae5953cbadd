import Mathlib.Algebra.Ring.Int.Defs
import Mathlib.Data.Rat.Defs

/-!
The values that cross the boundary of the node: what `json.loads` yields for a
request body, what the `sqlite3` driver does with such a value when it is bound
to a statement, and the exceptions these operations raise. Nothing here is
specific to sessions; the later modules read their inputs through these
definitions so that every place where an unvalidated value can make Python
raise is visible in the model.
-/

namespace Kin.Py

/-- The exception classes the modelled code can raise. -/
inductive PyExc
  | validationError
  | typeError
  | valueError
  | attributeError
  | unboundLocalError
  | unicodeEncodeError
  | overflowError
  | programmingError
  | integrityError
  | transportError
  | orchestratorError
  | runtimeError
  deriving DecidableEq, Repr

/-- A Python float. `json.loads` also accepts the literals `NaN` and
`Infinity`, so these are values a request body can hold. -/
inductive PyFloat
  | finite (value : ℚ)
  | negZero
  | nan
  | inf (negative : Bool)
  deriving DecidableEq

/-- A Python string. `json.loads` turns an unpaired `\ud800`-style escape into
a string with a lone surrogate, which has no UTF-8 encoding; such a string is
kept as its code points. -/
inductive PyStr
  | text (s : String)
  | lone (codePoints : List Nat)
  deriving DecidableEq

namespace PyStr

def codePoints : PyStr → List Nat
  | .text s => s.toList.map Char.toNat
  | .lone cs => cs

/-- Concatenation: a lone surrogate anywhere keeps the result unencodable. -/
def append : PyStr → PyStr → PyStr
  | .text s, .text t => .text (s ++ t)
  | s, t => .lone (s.codePoints ++ t.codePoints)

def encodable : PyStr → Bool
  | .text _ => true
  | .lone _ => false

instance : Append PyStr := ⟨append⟩

@[simp] theorem text_append_text (s t : String) :
    (PyStr.text s ++ PyStr.text t : PyStr) = .text (s ++ t) := rfl

@[simp] theorem encodable_text (s : String) : (PyStr.text s).encodable = true := rfl

@[simp] theorem encodable_append (s t : PyStr) :
    (s ++ t).encodable = (s.encodable && t.encodable) := by
  cases s <;> cases t <;> rfl

end PyStr

/-- What `json.loads` yields. -/
inductive Json
  | null
  | bool (b : Bool)
  | int (n : Int)
  | float (x : PyFloat)
  | str (s : PyStr)
  | arr (items : List Json)
  | obj (fields : List (PyStr × Json))

/-- A dictionary with string keys, such as a request body or a payload. -/
abbrev Fields := List (PyStr × Json)

namespace Json

/-- A string without lone surrogates. -/
@[match_pattern] abbrev text (s : String) : Json := .str (.text s)

/-- Python truthiness. -/
def truthy : Json → Bool
  | .null => false
  | .bool b => b
  | .int n => n != 0
  | .float (.finite q) => q != 0
  | .float .negZero => false
  | .float _ => true
  | .str (.text s) => s != ""
  | .str (.lone cs) => !cs.isEmpty
  | .arr items => !items.isEmpty
  | .obj fields => !fields.isEmpty

/-- Lists and dictionaries cannot be dictionary keys. -/
def hashable : Json → Bool
  | .arr _ => false
  | .obj _ => false
  | _ => true

mutual

/-- `validate_json_primitives`: no `NaN` and no infinity at any depth. (Values
from `json.loads` have no other non-JSON types and only string keys.) -/
def validPrimitives : Json → Bool
  | .float .nan => false
  | .float (.inf _) => false
  | .arr items => validItems items
  | .obj fields => validFields fields
  | _ => true

def validItems : List Json → Bool
  | [] => true
  | v :: vs => validPrimitives v && validItems vs

def validFields : List (PyStr × Json) → Bool
  | [] => true
  | (_, v) :: vs => validPrimitives v && validFields vs

end

mutual

/-- Whether every key and string has a UTF-8 encoding: `json.dumps(v,
ensure_ascii=False).encode("utf-8")` raises when one does not. -/
def encodable : Json → Bool
  | .str s => s.encodable
  | .arr items => encodableItems items
  | .obj fields => encodableFields fields
  | _ => true

def encodableItems : List Json → Bool
  | [] => true
  | v :: vs => encodable v && encodableItems vs

def encodableFields : List (PyStr × Json) → Bool
  | [] => true
  | (key, v) :: vs => key.encodable && encodable v && encodableFields vs

end

end Json

namespace Fields

/-- `d.get(key)`; `none` for a missing key. -/
def get? (fields : Fields) (key : String) : Option Json :=
  (fields.find? fun e => decide (e.1 = .text key)).map (·.2)

/-- `d.get(key, default)`. -/
def getD (fields : Fields) (key : String) (default : Json) : Json :=
  (get? fields key).getD default

/-- `{k: v for k, v in d.items() if k != key}`. -/
def without (fields : Fields) (key : String) : Fields :=
  fields.filter fun e => !decide (e.1 = .text key)

/-- `a or b` for two looked-up values: the first if it is truthy. -/
def firstTruthy (a b : Json) : Json := if a.truthy then a else b

end Fields

/-! ### Pydantic's lax integers

An `int` field in lax mode takes integers, booleans, integral floats inside the
64-bit range and numeric text. The reading of numeric text is a parameter. -/

/-- The value an `int` field gets from `v`, if it validates. -/
def laxInt (intOfText : String → Option Int) : Json → Option Int
  | .int n => some n
  | .bool b => some (if b then 1 else 0)
  | .float (.finite q) =>
      if q.den = 1 ∧ -2 ^ 63 < q.num ∧ q.num < 2 ^ 63 then some q.num else none
  | .float .negZero => some 0
  | .str (.text s) => intOfText s
  | _ => none

/-- The value a plain `str` field gets: any string, also one with a lone surrogate. -/
def asStr : Json → Option PyStr
  | .str s => some s
  | _ => none

/-- The string, if it has a UTF-8 encoding: what can be bound or encoded, and what
equals a text of the code. -/
def asText : Json → Option String
  | .str (.text s) => some s
  | _ => none

/-! ### SQLite values -/

inductive SqlValue
  | null
  | integer (n : Int)
  | real (x : PyFloat)
  | text (s : String)
  deriving DecidableEq

/-- Binding a Python value to a statement parameter. Lists and dictionaries are
unsupported, integers must fit 64 bits, text must have a UTF-8 encoding, and
`NaN` becomes `NULL`. -/
def bindSql : Json → Except PyExc SqlValue
  | .null => .ok .null
  | .bool b => .ok (.integer (if b then 1 else 0))
  | .int n => if -2 ^ 63 ≤ n ∧ n < 2 ^ 63 then .ok (.integer n) else .error .overflowError
  | .float .nan => .ok .null
  | .float x => .ok (.real x)
  | .str (.text s) => .ok (.text s)
  | .str (.lone _) => .error .unicodeEncodeError
  | .arr _ => .error .programmingError
  | .obj _ => .error .programmingError

/-- Text affinity: how a bound value is stored in, or compared with, a `TEXT`
column. SQLite's rendering of a real number is a parameter. -/
def sqlText (realText : PyFloat → String) : SqlValue → Option String
  | .null => none
  | .integer n => some (toString n)
  | .real x => some (realText x)
  | .text s => some s

/-- Numeric affinity: text that reads as a number is stored as that number, and a real
number that is an integer inside the 64-bit range as an integer. -/
def sqlNumeric (numericText : String → Option SqlValue) : SqlValue → SqlValue
  | .text s => (numericText s).getD (.text s)
  | .real (.finite q) =>
      if q.den = 1 ∧ -2 ^ 63 < q.num ∧ q.num < 2 ^ 63 then .integer q.num else .real (.finite q)
  | .real .negZero => .integer 0
  | v => v

@[simp] theorem bindSql_text (s : String) : bindSql (.text s) = .ok (.text s) := rfl

end Kin.Py
