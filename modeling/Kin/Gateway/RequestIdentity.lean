import Kin.Gateway.App
import Kin.Gateway.CanonicalText
import Kin.Lib.PrefixCode

/-!
What a request hash identifies. Of a header the hash has the last line, and the gateway forwards
the first: two requests with one hash are forwarded alike as long as their first lines agree.
-/

namespace Kin.Gateway

open Kin.Py Kin.Lib

inductive ProxyRequest
  | jsonrpc (headers : Headers) (body : Bytes)
  | rest (request : RestRequest)

structure Forwarded where
  transport : String
  target : String
  body : Bytes
  headers : Headers

def RequestFacts.forwarded (facts : RequestFacts) : Forwarded :=
  { transport := facts.transport, target := facts.target, body := facts.body
    headers := selectedHeaders facts.headers.get? forwardedRequestHeaders }

variable {urlsplit : List Char → Except PyExc SplitResult}

/-- `proxy_jsonrpc` or `proxy_rest`. -/
def GatewayApp.proxy (gw : GatewayApp urlsplit) : ProxyRequest → Handled
  | .jsonrpc headers body => gw.proxyJsonrpc headers body
  | .rest request => gw.proxyRest request

def GatewayApp.facts (gw : GatewayApp urlsplit) : ProxyRequest → Except GatewayExc RequestFacts
  | .jsonrpc headers body =>
      match gw.jsonrpcRequest body with
      | .error exc => .error exc
      | .ok document => .ok
          { transport := "JSONRPC", requestMethod := requestMethodOf document
            target := String.ofList jsonrpcPath, headers, body }
  | .rest request =>
      match request.target with
      | .error exc => .error exc
      | .ok (rawPath, query) => .ok
          { transport := "HTTP+JSON", requestMethod := .text request.method
            target := String.ofList (if query = [] then rawPath else rawPath ++ '?' :: query)
            headers := request.headers, body := request.body }

/-- `json.loads` yields Python's strings. -/
def StringsOfPython (loads : Bytes → Except GatewayExc Json) : Prop :=
  ∀ body document, loads body = .ok document →
    ∀ c ∈ (requestMethodOf document).codePoints, isCodePoint c

def Identified (gw : GatewayApp urlsplit) (request other : ProxyRequest) : Prop :=
  ∀ facts facts' hash, gw.facts request = .ok facts → gw.facts other = .ok facts' →
    deterministicRequestHash gw.sha256 facts = .ok hash →
    deterministicRequestHash gw.sha256 facts' = .ok hash → facts.forwarded = facts'.forwarded

/-- Where everything that is hashed agrees, the last lines of the headers among it, so do the
first lines. -/
def FirstLinesAgree (gw : GatewayApp urlsplit) (request other : ProxyRequest) : Prop :=
  ∀ facts facts', gw.facts request = .ok facts → gw.facts other = .ok facts' →
    HashedAlike facts facts' →
    ∀ name ∈ forwardedRequestHeaders, facts.headers.get? name = facts'.headers.get? name

section

variable {gw : GatewayApp urlsplit}

theorem facts_jsonrpc {headers : Headers} {body : Bytes} {facts : RequestFacts}
    (h : gw.facts (.jsonrpc headers body) = .ok facts) :
    ∃ document, gw.jsonrpcRequest body = .ok document ∧
      facts = { transport := "JSONRPC", requestMethod := requestMethodOf document
                target := String.ofList jsonrpcPath, headers, body } := by
  rw [GatewayApp.facts] at h
  split at h
  · cases h
  · rename_i document hdocument
    exact ⟨document, hdocument, (Except.ok.inj h).symm⟩

theorem facts_rest {request : RestRequest} {facts : RequestFacts}
    (h : gw.facts (.rest request) = .ok facts) :
    facts.requestMethod = .text request.method ∧ facts.headers = request.headers ∧
      facts.body = request.body := by
  rw [GatewayApp.facts] at h
  split at h
  · cases h
  · cases h
    exact ⟨rfl, rfl, rfl⟩

theorem isCodePoint_requestMethod (hloads : StringsOfPython gw.loads) {request : ProxyRequest}
    {facts : RequestFacts} (h : gw.facts request = .ok facts) :
    ∀ c ∈ facts.requestMethod.codePoints, isCodePoint c := by
  cases request with
  | jsonrpc headers body =>
      obtain ⟨document, hdocument, rfl⟩ := facts_jsonrpc h
      unfold Observation.jsonrpcRequest at hdocument
      split at hdocument
      · rename_i loaded hloaded
        cases hdocument
        exact hloads _ _ hloaded
      · cases hdocument
        exact isCodePoint_codePoints "POST"
      · cases hdocument
        exact isCodePoint_codePoints "POST"
      · cases hdocument
  | rest request =>
      rw [(facts_rest h).1]
      exact isCodePoint_codePoints request.method

theorem selectedHeaders_inj {headers other : Headers} :
    selectedHeaders headers.get? forwardedRequestHeaders =
        selectedHeaders other.get? forwardedRequestHeaders ↔
      ∀ name ∈ forwardedRequestHeaders, headers.get? name = other.get? name :=
  membersOf_inj (by decide)

end

/-- Two requests to the proxies with one hash are forwarded alike exactly if no header that is
forwarded has the same last line in both and other first lines, all else that is hashed being
the same. -/
theorem request_hash_identifies_iff (gw : GatewayApp urlsplit)
    (hsha256 : Function.Injective gw.sha256) (hloads : StringsOfPython gw.loads)
    (request other : ProxyRequest) :
    Identified gw request other ↔ FirstLinesAgree gw request other := by
  constructor
  · intro h facts facts' hfacts hfacts' halike
    obtain ⟨hash, hhash, hhash'⟩ := (hash_eq_iff hsha256
      (isCodePoint_requestMethod hloads hfacts) (isCodePoint_requestMethod hloads hfacts')).mpr
        halike
    have hforwarded := h facts facts' hash hfacts hfacts' hhash hhash'
    exact selectedHeaders_inj.mp (congrArg Forwarded.headers hforwarded)
  · intro h facts facts' hash hfacts hfacts' hhash hhash'
    have halike := (hash_eq_iff hsha256 (isCodePoint_requestMethod hloads hfacts)
      (isCodePoint_requestMethod hloads hfacts')).mp ⟨hash, hhash, hhash'⟩
    have hheaders := selectedHeaders_inj.mpr (h facts facts' hfacts hfacts' halike)
    unfold RequestFacts.forwarded
    rw [halike.transport, halike.target, halike.body, hheaders]

/-- Headers of which no forwarded one has two lines that differ. -/
abbrev SingleValued (headers : Headers) : Prop :=
  ∀ name ∈ forwardedRequestHeaders, headers.get? name = headers.last? name

/-- Requests without such headers are told apart. -/
theorem firstLinesAgree_of_singleValued {gw : GatewayApp urlsplit} {request other : ProxyRequest}
    (h : ∀ facts, gw.facts request = .ok facts → SingleValued facts.headers)
    (h' : ∀ facts, gw.facts other = .ok facts → SingleValued facts.headers) :
    FirstLinesAgree gw request other := by
  intro facts facts' hfacts hfacts' halike name hname
  have hhashed : name ∈ hashedHeaders := by
    revert name
    decide
  rw [h facts hfacts name hname, h' facts' hfacts' name hname]
  exact halike.lastLines name hhashed

namespace Sample

/-- A hash that forgets nothing: a letter for each byte. -/
def letters (bytes : Bytes) : String := String.ofList (bytes.map fun b => Char.ofNat b.toNat)

theorem letters_injective : Function.Injective letters := by
  intro a b h
  exact List.map_injective_iff.mpr Lib.byteLetter_injective (String.ofList_inj.mp h)

def gateway : GatewayApp splitAgentExample := { agentExample rootSettings with sha256 := letters }

def message (headers : Headers) : ProxyRequest := .jsonrpc (("a2a-version", "1.0") :: headers) []

def messageFacts (headers : Headers) : RequestFacts where
  transport := "JSONRPC"
  requestMethod := .text "POST"
  target := String.ofList jsonrpcPath
  headers := ("a2a-version", "1.0") :: headers
  body := []

def onceJson : Headers := [("accept", "application/json")]

def firstStream : Headers := [("accept", "text/event-stream"), ("accept", "application/json")]

end Sample

/-- Two requests that differ in `accept`, each with one line. -/
theorem message_identified :
    Identified Sample.gateway (Sample.message Sample.onceJson)
      (Sample.message [("accept", "text/event-stream")]) := by
  refine (request_hash_identifies_iff Sample.gateway Sample.letters_injective ?_ _ _).mpr
    (firstLinesAgree_of_singleValued ?_ ?_)
  · rintro body document hdocument
    cases hdocument
    decide
  · rintro facts hfacts
    cases hfacts
    decide
  · rintro facts hfacts
    cases hfacts
    decide

/-- A second line of `accept` is hashed and the first is forwarded. -/
theorem repeated_header_not_identified :
    ¬Identified Sample.gateway (Sample.message Sample.onceJson)
      (Sample.message Sample.firstStream) := by
  intro h
  have halike : HashedAlike (Sample.messageFacts Sample.onceJson)
      (Sample.messageFacts Sample.firstStream) :=
    { transport := rfl, requestMethod := rfl, encodable := by decide, target := rfl, body := rfl
      lastLines := by decide }
  have hmethod : ∀ headers, ∀ c ∈ (Sample.messageFacts headers).requestMethod.codePoints,
      isCodePoint c := fun _ => isCodePoint_codePoints "POST"
  obtain ⟨hash, hhash, hhash'⟩ := (hash_eq_iff Sample.letters_injective (hmethod _)
    (hmethod _)).mpr halike
  have hforwarded := congrArg Forwarded.headers (h _ _ hash rfl rfl hhash hhash')
  revert hforwarded
  decide

end Kin.Gateway
