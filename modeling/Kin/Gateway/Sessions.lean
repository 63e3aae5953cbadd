import Kin.Gateway.Config

/-!
`kin_gateway/sessions.py`: the hash of a request, and the tracker that hands one
record of a proxied request to an observer. `json.loads` and SHA-256 are parameters.
Session ids and times are left out of the records.
-/

namespace Kin.Gateway

open Kin.Py

abbrev Bytes := List UInt8

/-- What can go wrong in a request handler. `baseException` is an exception outside
`Exception`, such as a cancellation. -/
inductive GatewayExc
  | valueError
  | typeError
  | osError
  | recursionError
  | unicodeEncodeError
  | unicodeDecodeError
  | httpError
  | upstreamCredentialError
  | timeoutError
  | otherError
  | baseException
  deriving DecidableEq, Repr

/-! ### The request hash -/

def isSurrogate (codePoint : Nat) : Bool := 0xD800 ≤ codePoint && codePoint ≤ 0xDFFF

/-- The bytes of a code point that is no surrogate. -/
def utf8Bytes (c : Nat) : Bytes :=
  if c < 0x80 then [UInt8.ofNat c]
  else if c < 0x800 then [UInt8.ofNat (0xC0 + c / 64), UInt8.ofNat (0x80 + c % 64)]
  else if c < 0x10000 then
    [UInt8.ofNat (0xE0 + c / 4096), UInt8.ofNat (0x80 + c / 64 % 64), UInt8.ofNat (0x80 + c % 64)]
  else
    [UInt8.ofNat (0xF0 + c / 262144), UInt8.ofNat (0x80 + c / 4096 % 64),
     UInt8.ofNat (0x80 + c / 64 % 64), UInt8.ofNat (0x80 + c % 64)]

/-- `text.encode("utf-8")`. -/
def encodeUtf8 (codePoints : List Nat) : Except GatewayExc Bytes :=
  if codePoints.any isSurrogate then .error .unicodeEncodeError
  else .ok (codePoints.flatMap utf8Bytes)

def codePoints (s : String) : List Nat := s.toList.map Char.toNat

/-- One code point inside a JSON string, as `json.dumps` writes it with
`ensure_ascii=False`. -/
def escapeJson (c : Nat) : List Nat :=
  if c = 0x22 then codePoints "\\\""
  else if c = 0x5C then codePoints "\\\\"
  else if c = 0x08 then codePoints "\\b"
  else if c = 0x09 then codePoints "\\t"
  else if c = 0x0A then codePoints "\\n"
  else if c = 0x0C then codePoints "\\f"
  else if c = 0x0D then codePoints "\\r"
  else if c < 0x20 then codePoints (if c < 0x10 then "\\u000" else "\\u001") ++ codePoints
    (String.ofList [Nat.digitChar (c % 16)])
  else [c]

def jsonString (text : List Nat) : List Nat := 0x22 :: text.flatMap escapeJson ++ [0x22]

def joinComma : List (List Nat) → List Nat
  | [] => []
  | [value] => value
  | value :: values => value ++ 0x2C :: joinComma values

/-- A JSON object of written values, with the keys in the given order. -/
def jsonObject (fields : List (String × List Nat)) : List Nat :=
  0x7B :: joinComma (fields.map fun f => jsonString (codePoints f.1) ++ 0x3A :: f.2) ++ [0x7D]

/-- The headers of the request hash, in the order of their names. -/
def hashedHeaders : List String :=
  ["a2a-extensions", "a2a-version", "accept", "content-type", "last-event-id"]

structure RequestFacts where
  transport : String
  requestMethod : PyStr
  target : String
  headers : Headers
  body : Bytes

/-- The last value under a name: a later entry of a dictionary display wins. -/
def Headers.last? (headers : Headers) (name : String) : Option String :=
  (headers.values name).getLast?

def canonicalText (sha256 : Bytes → String) (facts : RequestFacts) : List Nat :=
  jsonObject
    [("body_sha256", jsonString (codePoints (sha256 facts.body))),
     ("headers", jsonObject (hashedHeaders.filterMap fun name =>
        (facts.headers.last? name).map fun value => (name, jsonString (codePoints value)))),
     ("request_method", jsonString facts.requestMethod.codePoints),
     ("target", jsonString (codePoints facts.target)),
     ("transport", jsonString (codePoints facts.transport))]

def deterministicRequestHash (sha256 : Bytes → String) (facts : RequestFacts) :
    Except GatewayExc String :=
  (encodeUtf8 (canonicalText sha256 facts)).map sha256

theorem isSurrogate_toNat (c : Char) : isSurrogate c.toNat = false := by
  have hvalid : c.toNat < 0xD800 ∨ 0xDFFF < c.toNat ∧ c.toNat < 0x110000 := c.valid
  simp only [isSurrogate, Bool.and_eq_false_iff, decide_eq_false_iff_not]
  omega

@[simp] theorem any_codePoints (s : String) : (codePoints s).any isSurrogate = false := by
  rw [codePoints, List.any_map, List.any_eq_false]
  intro c _
  rw [Function.comp_apply, isSurrogate_toNat]
  exact Bool.false_ne_true

theorem escapeJson_of_le {c : Nat} (h : 0x80 ≤ c) : escapeJson c = [c] := by
  unfold escapeJson
  rw [if_neg (by omega), if_neg (by omega), if_neg (by omega), if_neg (by omega),
    if_neg (by omega), if_neg (by omega), if_neg (by omega), if_neg (by omega)]

/-- Escaping neither adds nor removes a surrogate. -/
theorem any_escapeJson (c : Nat) : (escapeJson c).any isSurrogate = isSurrogate c := by
  by_cases h : c < 0x80
  · have hsmall : ∀ c < 0x80, (escapeJson c).any isSurrogate = isSurrogate c := by decide
    exact hsmall c h
  · rw [escapeJson_of_le (Nat.le_of_not_lt h), List.any_cons, List.any_nil, Bool.or_false]

@[simp] theorem any_jsonString (text : List Nat) :
    (jsonString text).any isSurrogate = text.any isSurrogate := by
  have hquote : isSurrogate 0x22 = false := by decide
  simp [jsonString, List.any_flatMap, any_escapeJson, hquote]

theorem any_joinComma (values : List (List Nat)) :
    (joinComma values).any isSurrogate = values.any fun value => value.any isSurrogate := by
  induction values with
  | nil => rfl
  | cons value values ih =>
      cases values with
      | nil => simp [joinComma]
      | cons next values =>
          have hcomma : isSurrogate 0x2C = false := by decide
          change (value ++ 0x2C :: joinComma (next :: values)).any isSurrogate = _
          rw [List.any_append, List.any_cons, hcomma, ih, Bool.false_or]
          rfl

theorem any_jsonObject (fields : List (String × List Nat)) :
    (jsonObject fields).any isSurrogate = fields.any fun f => f.2.any isSurrogate := by
  have hcolon : isSurrogate 0x3A = false := by decide
  have hopen : isSurrogate 0x7B = false := by decide
  have hclose : isSurrogate 0x7D = false := by decide
  simp [jsonObject, any_joinComma, List.any_map, Function.comp_def, hcolon, hopen, hclose]

/-- Of all that is hashed, only the method can be without an encoding. -/
theorem any_canonicalText (sha256 : Bytes → String) (facts : RequestFacts) :
    (canonicalText sha256 facts).any isSurrogate =
      facts.requestMethod.codePoints.any isSurrogate := by
  have hheaders : ((hashedHeaders.filterMap fun name => (facts.headers.last? name).map fun value =>
      (name, jsonString (codePoints value))).any fun f => f.2.any isSurrogate) = false := by
    rw [List.any_eq_false]
    intro f hf
    obtain ⟨name, -, hname⟩ := List.mem_filterMap.mp hf
    obtain ⟨value, -, rfl⟩ := Option.map_eq_some_iff.mp hname
    rw [any_jsonString, any_codePoints]
    exact Bool.false_ne_true
  simp [canonicalText, any_jsonObject, hheaders]

theorem deterministicRequestHash_eq (sha256 : Bytes → String) (facts : RequestFacts) :
    deterministicRequestHash sha256 facts =
      if facts.requestMethod.codePoints.any isSurrogate then .error .unicodeEncodeError
      else .ok (sha256 ((canonicalText sha256 facts).flatMap utf8Bytes)) := by
  unfold deterministicRequestHash encodeUtf8
  rw [any_canonicalText]
  split <;> rfl

/-! ### The tracker -/

inductive Outcome
  | forwarded
  | upstreamUnavailable
  | unsupportedVersion
  | unsupportedOperation
  | upstreamTimeout
  | clientDisconnected
  | upstreamDisconnected
  deriving DecidableEq, Repr

/-- An `ExternalTaskSession`. -/
structure ExternalTaskSession where
  a2aTaskId : Option PyStr
  transport : String
  requestMethod : PyStr
  requestHash : String
  upstream : List Char
  outcome : Outcome

/-- What comes of an observer that is handed the record of a request. -/
inductive ObserverEffect
  | returns
  | raisesException
  | raisesBaseException
  | neverReturns
  deriving DecidableEq, Repr

inductive Completion
  | done
  | raised (exc : GatewayExc)
  | never
  deriving DecidableEq, Repr

/-- An `ExternalTaskSessionTracker` that has not completed. -/
structure Tracker where
  transport : String
  requestMethod : PyStr
  requestHash : String
  upstream : List Char

/-- What a tracker reaches beyond the gateway. A request completes its session once at
most, so that an observer is known by what it does then. -/
structure Observation where
  loads : Bytes → Except GatewayExc Json
  sha256 : Bytes → String
  observer : Option ObserverEffect

/-- `ExternalTaskSessionTracker.__init__`. -/
def Observation.track (o : Observation) (facts : RequestFacts) (upstream : List Char) :
    Except GatewayExc Tracker :=
  (deterministicRequestHash o.sha256 facts).map fun requestHash =>
    { transport := facts.transport, requestMethod := facts.requestMethod, requestHash, upstream }

/-- A tracker exists unless the method has a surrogate. -/
theorem Observation.track_eq (o : Observation) (facts : RequestFacts) (upstream : List Char) :
    o.track facts upstream =
      if facts.requestMethod.codePoints.any isSurrogate then .error .unicodeEncodeError
      else .ok
        { transport := facts.transport, requestMethod := facts.requestMethod
          requestHash := o.sha256 ((canonicalText o.sha256 facts).flatMap utf8Bytes), upstream } := by
  unfold Observation.track
  rw [deterministicRequestHash_eq]
  split <;> rfl

/-- `document.get(name, default)` on a document that is a dictionary. -/
def memberOr (document : Json) (name : String) (default : Json) : Option Json :=
  match document with
  | .obj fields => some (Fields.getD fields name default)
  | _ => none

/-- The task id of a document, as `_task_id_from_response` reads it. -/
def taskIdOf (document : Json) : Option PyStr :=
  match (memberOr document "result" document).bind fun candidate =>
      (memberOr candidate "task" candidate).bind fun task => memberOr task "id" .null with
  | some (.str taskId) => if (Json.str taskId).truthy then some taskId else none
  | _ => none

/-- `_task_id_from_response`: what `json.loads` raises is caught when it is a
`TypeError` or a `ValueError`. -/
def Observation.taskIdFromResponse (o : Observation) :
    Option Bytes → Except GatewayExc (Option PyStr)
  | none | some [] => .ok none
  | some body =>
      match o.loads body with
      | .ok document => .ok (taskIdOf document)
      | .error .valueError | .error .typeError => .ok none
      | .error exc => .error exc

/-- `ExternalTaskSessionTracker.complete`, called once: the record that is handed to the
observer, and how the caller goes on. -/
def Observation.complete (o : Observation) (tracker : Tracker) (outcome : Outcome)
    (responseBody : Option Bytes) : Option ExternalTaskSession × Completion :=
  match o.taskIdFromResponse responseBody with
  | .error exc => (none, .raised exc)
  | .ok a2aTaskId =>
      let session :=
        { a2aTaskId, transport := tracker.transport, requestMethod := tracker.requestMethod
          requestHash := tracker.requestHash, upstream := tracker.upstream, outcome }
      match o.observer with
      | none | some .returns | some .raisesException => (some session, .done)
      | some .raisesBaseException => (some session, .raised .baseException)
      | some .neverReturns => (some session, .never)

end Kin.Gateway
