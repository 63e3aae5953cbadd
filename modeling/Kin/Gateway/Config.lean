import Kin.Py.Value
import Kin.Session.History

/-!
`kin_gateway/config.py`: the base URL of the upstream and the credential it is called
with. The settings are frozen and exist in validated form only, so they carry what the
validators accepted.
-/

namespace Kin.Gateway

open Kin.Py Kin.Session

/-! ### Base URLs -/

/-- What the gateway reads of the result of `urlsplit`. Reading the port may raise. -/
structure SplitResult where
  scheme : String
  netloc : String
  hostname : Option String
  username : Option String
  password : Option String
  query : String
  fragment : String
  port : Except PyExc (Option Nat)

/-- `value.rstrip("/")`. -/
def rstripSlash (value : List Char) : List Char :=
  (value.reverse.dropWhile (· == '/')).reverse

/-- `normalize_base_url`, over the `urlsplit` of the standard library. -/
def normalizeBaseUrl (urlsplit : List Char → Except PyExc SplitResult) (value : List Char) :
    Except String (List Char) :=
  let normalized := rstripSlash value
  match urlsplit normalized with
  | .error _ => .error "base URL must include a valid host and valid numeric port"
  | .ok parsed =>
      match parsed.port with
      | .error _ => .error "base URL must include a valid host and valid numeric port"
      | .ok _ =>
          if parsed.scheme ∉ ["http", "https"] then .error "base URL must use http or https"
          else
            match parsed.hostname with
            | none | some "" => .error "base URL must include a host"
            | some hostname =>
                if hostname.toList.any fun c => isSpaceCode c.toNat then
                  .error "base URL host must not contain whitespace"
                else if parsed.username.isSome ∨ parsed.password.isSome then
                  .error "base URL must not contain credentials"
                else if parsed.query ≠ "" ∨ parsed.fragment ≠ "" then
                  .error "base URL must not contain a query or fragment"
                else .ok normalized

/-- The `upstream_base_url` of a `GatewaySettings`. -/
structure GatewaySettings (urlsplit : List Char → Except PyExc SplitResult) where
  upstreamBaseUrl : List Char
  accepted : ∃ value, 1 ≤ value.length ∧ normalizeBaseUrl urlsplit value = .ok upstreamBaseUrl

theorem rstripSlash_of_normalize {urlsplit : List Char → Except PyExc SplitResult}
    {value base : List Char} (h : normalizeBaseUrl urlsplit value = .ok base) :
    rstripSlash value = base := by
  unfold normalizeBaseUrl at h
  dsimp only at h
  split at h
  · cases h
  split at h
  · cases h
  split at h
  · cases h
  split at h
  · cases h
  · cases h
  split at h
  · cases h
  split at h
  · cases h
  split at h
  · cases h
  · exact Except.ok.inj h

theorem getLast?_rstripSlash (value : List Char) : (rstripSlash value).getLast? ≠ some '/' := by
  rw [rstripSlash, List.getLast?_reverse]
  intro h
  have hhead := List.head?_dropWhile_not (· == '/') value.reverse
  rw [h] at hhead
  simp at hhead

theorem GatewaySettings.getLast?_base {urlsplit : List Char → Except PyExc SplitResult}
    (settings : GatewaySettings urlsplit) : settings.upstreamBaseUrl.getLast? ≠ some '/' := by
  obtain ⟨value, -, hvalue⟩ := settings.accepted
  rw [← rstripSlash_of_normalize hvalue]
  exact getLast?_rstripSlash value

/-! ### Headers

Header names are compared without regard to case; an ASCII name is all that a
configured name can be. -/

abbrev Headers := List (String × String)

/-- `name.lower()`. -/
def lowerName (name : String) : List Char := name.toList.map Char.toLower

def sameName (name name' : String) : Bool := lowerName name == lowerName name'

def Headers.get? (headers : Headers) (name : String) : Option String :=
  (headers.find? fun h => sameName h.1 name).map (·.2)

def Headers.values (headers : Headers) (name : String) : List String :=
  (headers.filter fun h => sameName h.1 name).map (·.2)

/-- How `httpx` puts headers over those it has: the new ones replace every header of
their names. -/
def Headers.update (headers new : Headers) : Headers :=
  headers.filter (fun h => !new.any fun n => sameName n.1 h.1) ++ new

theorem sameName_iff {name name' : String} :
    sameName name name' = true ↔ lowerName name = lowerName name' := beq_iff_eq

theorem Headers.values_update (headers new : Headers) (name : String) :
    (headers.update new).values name =
      if new.values name = [] then headers.values name else new.values name := by
  have hany : ∀ h : String × String, sameName h.1 name = true →
      (new.any fun n => sameName n.1 h.1) = new.any fun n => sameName n.1 name := by
    intro h hname
    have hcongr : (fun n : String × String => sameName n.1 h.1) = fun n => sameName n.1 name := by
      funext n
      unfold sameName
      rw [sameName_iff.mp hname]
    rw [hcongr]
  unfold Headers.update Headers.values
  rw [List.filter_append, List.map_append, List.filter_filter]
  split
  · rename_i hnone
    rw [hnone, List.append_nil]
    congr 1
    apply List.filter_congr
    intro h _
    cases hname : sameName h.1 name with
    | false => rfl
    | true =>
        have hnot : (new.any fun n => sameName n.1 name) = false := by
          rw [List.any_eq_false]
          intro n hn hsame
          have hmem : n ∈ new.filter fun h => sameName h.1 name := List.mem_filter.mpr ⟨hn, hsame⟩
          rw [List.map_eq_nil_iff.mp hnone] at hmem
          cases hmem
        rw [hany h hname, hnot]
        rfl
  · rename_i hsome
    have hdropped : (headers.filter fun h =>
        sameName h.1 name && !new.any fun n => sameName n.1 h.1) = [] := by
      rw [List.filter_eq_nil_iff]
      intro h _ hkept
      rw [Bool.and_eq_true, Bool.not_eq_true'] at hkept
      rw [hany h hkept.1, List.any_eq_false] at hkept
      apply hsome
      rw [List.map_eq_nil_iff, List.filter_eq_nil_iff]
      exact hkept.2
    rw [hdropped, List.map_nil, List.nil_append]

/-! ### Credentials -/

def reservedUpstreamHeaders : List String :=
  ["a2a-extensions", "a2a-version", "connection", "content-length", "content-type", "host",
   "transfer-encoding"]

inductive CredentialMode
  | privateMode
  | headerMode
  deriving DecidableEq

/-- The fields of an `UpstreamCredentialSettings`, before validation. -/
structure CredentialFields where
  mode : CredentialMode := .privateMode
  headerName : Option String := none
  secretRef : Option String := none
  valuePrefix : String := ""

/-- `re.fullmatch(r"[A-Za-z0-9-]+", value)`. -/
def isHeaderToken (value : String) : Bool :=
  !value.toList.isEmpty && value.toList.all fun c => c.isAlphanum || c == '-'

def validateHeaderName : Option String → Except String Unit
  | none => .ok ()
  | some value =>
      if !isHeaderToken value then .error "header_name must be a valid HTTP token"
      else if reservedUpstreamHeaders.any (sameName value) then
        .error "header_name is reserved by the A2A gateway"
      else .ok ()

/-- `if not value`. -/
def missing (value : Option String) : Bool := value.all (· == "")

def validateModeFields (fields : CredentialFields) : Except String Unit :=
  if fields.mode = .headerMode ∧ missing fields.headerName then
    .error "header mode requires header_name"
  else if fields.mode = .headerMode ∧ missing fields.secretRef then
    .error "header mode requires secret_ref"
  else .ok ()

structure UpstreamCredentialSettings extends CredentialFields where
  validName : validateHeaderName headerName = .ok ()
  validMode : validateModeFields toCredentialFields = .ok ()

end Kin.Gateway
