import Kin.Gateway.App
import Mathlib.Data.List.Infix

/-!
The Agent Card mirror of `kin_gateway/agent_card.py`: the fetch with its redirects, the public
projection of the card, and the search for private references in it. `urlsplit` and `urljoin`,
`httpx`, the resolver, the credential provider, protobuf and `json.loads` are parameters, the
resolver, the provider and the upstream of the hop as well. The cache and the timeout are left
out; a fetch that times out is one whose exchange raises.
-/

namespace Kin.Gateway

open Kin.Py

/-! ### Cards and settings -/

/-- An `AgentInterface`; `rest` is what is copied and never read. -/
structure AgentInterface where
  url : String
  protocolBinding : String
  protocolVersion : String
  rest : Fields := []

structure AgentSkill where
  id : String
  rest : Fields := []

/-- An `AgentCard`, with the fields that are never read in `rest`. -/
structure AgentCard where
  name : String
  description : String
  version : String
  defaultInputModes : List String
  defaultOutputModes : List String
  streaming : Bool
  supportedInterfaces : List AgentInterface
  skills : List AgentSkill
  rest : Fields := []

variable {urlsplit : List Char → Except PyExc SplitResult}

structure MirrorSettings (urlsplit : List Char → Except PyExc SplitResult)
    extends GatewaySettings urlsplit where
  publicBaseUrl : String
  approvedSkillIds : List String := []
  trustedPrivateHosts : List String := []
  maxResponseBytes : Nat := 262144
  maxRedirects : Nat := 3
  bytesInRange : 1 ≤ maxResponseBytes ∧ maxResponseBytes ≤ 4194304 := by decide
  redirectsInRange : maxRedirects ≤ 10 := by decide

inductive CardExc
  | agentCardMirrorError (message : String)
  | other (exc : GatewayExc)

/-! ### Case folding and JSON text -/

/-- `str.casefold`: code point by code point; ASCII folds to lower case, and nothing else folds
to a quote, a backslash or a control character. -/
structure CaseFolding where
  fold : Nat → List Nat
  ascii : ∀ c < 0x80, fold c = [if 0x41 ≤ c ∧ c ≤ 0x5A then c + 0x20 else c]
  beyond : ∀ c, 0x80 ≤ c → ∀ x ∈ fold c, 0x20 ≤ x ∧ x ≠ 0x22 ∧ x ≠ 0x5C

def CaseFolding.casefold (folding : CaseFolding) (text : List Nat) : List Nat :=
  text.flatMap folding.fold

/-- `value in text`, ignoring case. -/
def CaseFolding.contains (folding : CaseFolding) (text value : List Nat) : Bool :=
  decide (folding.casefold value <:+: folding.casefold text)

mutual

/-- `json.dumps(value, ensure_ascii=False)`, given the text of a float. -/
def dumpsJson (floatText : PyFloat → String) : Json → List Nat
  | .null => codePoints "null"
  | .bool true => codePoints "true"
  | .bool false => codePoints "false"
  | .int n => codePoints (toString n)
  | .float x => codePoints (floatText x)
  | .str s => jsonString s.codePoints
  | .arr items => 0x5B :: dumpsItems floatText items ++ [0x5D]
  | .obj fields => 0x7B :: dumpsMembers floatText fields ++ [0x7D]

def dumpsItems (floatText : PyFloat → String) : List Json → List Nat
  | [] => []
  | [item] => dumpsJson floatText item
  | item :: items => dumpsJson floatText item ++ (codePoints ", " ++ dumpsItems floatText items)

def dumpsMembers (floatText : PyFloat → String) : List (PyStr × Json) → List Nat
  | [] => []
  | [(key, value)] => jsonString key.codePoints ++ (codePoints ": " ++ dumpsJson floatText value)
  | (key, value) :: members =>
      jsonString key.codePoints ++ (codePoints ": " ++ (dumpsJson floatText value ++
        (codePoints ", " ++ dumpsMembers floatText members)))

end

/-! ### The mirror -/

/-- An `IPv4Address` or `IPv6Address`, by its text. -/
structure Address where
  text : String
  isGlobal : Bool
  deriving DecidableEq

/-- A request of the fetch; `logicalUrl` and `credential` are the URL of the hop and the
headers of the credential provider. -/
structure CardRequest where
  logicalUrl : List Char
  credential : Headers
  url : List Char
  headers : Headers
  sniHostname : Option String

structure CardResponse where
  status : Nat
  headers : Headers
  chunks : List (Except GatewayExc Bytes)

structure MirroredAgentCard where
  document : Json
  sourceSha256 : String
  publicSha256 : String

/-- An `AgentCardMirror` with what it depends on. -/
structure AgentCardMirror (urlsplit : List Char → Except PyExc SplitResult) where
  settings : MirrorSettings urlsplit
  lower : String → String
  /-- `str(httpx.URL(base).join(AGENT_CARD_PATH))`. -/
  cardUrl : List Char → Except GatewayExc (List Char)
  urljoin : List Char → String → Except GatewayExc (List Char)
  /-- `ipaddress.ip_address`; `none` when it raises. -/
  ipAddress : String → Option Address
  /-- `str(httpx.URL(url).copy_with(host=host))`. -/
  copyWithHost : List Char → String → Except GatewayExc (List Char)
  resolve : Nat → String → Nat → Except GatewayExc (List Address)
  headersFor : Nat → RequestContext → Except GatewayExc Headers
  stream : Nat → CardRequest → Except GatewayExc CardResponse
  /-- `int(text)`; `none` when it raises. -/
  intOf : String → Option Int
  loads : Bytes → Except GatewayExc Json
  /-- `ParseDict` and `validate_proto_required_fields`. -/
  parseDict : Json → Except GatewayExc AgentCard
  messageToDict : AgentCard → Json
  folding : CaseFolding
  floatText : PyFloat → String
  /-- `_document_hash`. -/
  documentHash : Json → String

/-- `_PUBLIC_INTERFACE_PATHS`. -/
def publicInterfacePath : String → Option String
  | "JSONRPC" => some (String.ofList jsonrpcPath)
  | "HTTP+JSON" => some (String.ofList restRoute)
  | _ => none

/-- `(scheme, host, port)` of a URL. -/
structure Origin where
  scheme : String
  host : String
  port : Nat
  deriving DecidableEq

/-- `port or default`. -/
def portOr (default : Nat) : Option Nat → Nat
  | none | some 0 => default
  | some port => port

def mirrorError {α : Type} (message : String) : Except CardExc α :=
  .error (.agentCardMirrorError message)

namespace AgentCardMirror

variable (mirror : AgentCardMirror urlsplit)

def origin (url : List Char) : Except CardExc Origin :=
  match urlsplit url with
  | .error _ => .error (.other .valueError)
  | .ok parsed =>
      match parsed.hostname with
      | none | some "" => mirrorError "Agent Card target URL is invalid"
      | some hostname =>
          if parsed.scheme ∉ ["http", "https"] then mirrorError "Agent Card target URL is invalid"
          else if parsed.username.isSome ∨ parsed.password.isSome then
            mirrorError "Agent Card target contains credentials"
          else
            match parsed.port with
            | .error _ => .error (.other .valueError)
            | .ok port => .ok ⟨parsed.scheme, mirror.lower hostname,
                portOr (if parsed.scheme = "https" then 443 else 80) port⟩

/-- A host of `trusted_private_hosts`. -/
def trusts (host : String) : Bool :=
  (mirror.settings.trustedPrivateHosts.map mirror.lower).contains (mirror.lower host)

def addressesOf (hop : Nat) (host : String) (port : Nat) : Except CardExc (List Address) :=
  match mirror.ipAddress host with
  | some literal => .ok [literal]
  | none =>
      match mirror.resolve hop host port with
      | .ok addresses => .ok addresses
      | .error .osError | .error .valueError => mirrorError "Agent Card target cannot be resolved"
      | .error exc => .error (.other exc)

/-- What `_validated_target` returns. -/
structure Target where
  url : List Char
  headers : Headers
  sniHostname : Option String

def validatedTarget (hop : Nat) (logicalUrl : List Char) : Except CardExc Target :=
  match urlsplit logicalUrl with
  | .error _ => .error (.other .valueError)
  | .ok parsed =>
      let host := parsed.hostname.getD ""
      if mirror.trusts host then .ok ⟨logicalUrl, [], none⟩
      else if parsed.scheme ≠ "https" then
        mirrorError "Untrusted Agent Card targets require HTTPS"
      else
        match parsed.port with
        | .error _ => .error (.other .valueError)
        | .ok port =>
            match mirror.addressesOf hop host (portOr 443 port) with
            | .error exc => .error exc
            | .ok [] => mirrorError "Private upstream address is not trusted"
            | .ok (first :: others) =>
                if (first :: others).any fun address => !address.isGlobal then
                  mirrorError "Private upstream address is not trusted"
                else
                  match mirror.copyWithHost logicalUrl first.text with
                  | .error exc => .error (.other exc)
                  | .ok pinned =>
                      let authority :=
                        match port with
                        | none | some 443 => host
                        | some port => host ++ ":" ++ toString port
                      .ok ⟨pinned, [("Host", authority)], some host⟩

/-- `{**headers, **new}`. -/
def mergeHeaders (headers new : Headers) : Headers :=
  headers.filter (fun h => !new.any fun n => n.1 == h.1) ++ new

/-- The part of a credential value after its first space, where there is one. -/
def afterSpace (value : String) : Option String :=
  match value.toList.dropWhile (· ≠ ' ') with
  | _ :: c :: payload => some (String.ofList (c :: payload))
  | _ => none

def credentialValues (credential : Headers) : List String :=
  credential.flatMap fun h => h.2 :: (afterSpace h.2).toList

/-- The loop of `_bounded_body`. -/
def boundedChunks (limit : Nat) : Bytes → List (Except GatewayExc Bytes) → Except CardExc Bytes
  | body, [] => .ok body
  | _, .error exc :: _ => .error (.other exc)
  | body, .ok chunk :: chunks =>
      if limit < (body ++ chunk).length then mirrorError "Agent Card exceeds size limit"
      else boundedChunks limit (body ++ chunk) chunks

def boundedBody (response : CardResponse) : Except CardExc Bytes :=
  let limit := mirror.settings.maxResponseBytes
  match response.headers.joined? "content-length" with
  | none => boundedChunks limit [] response.chunks
  | some text =>
      match mirror.intOf text with
      | none => .error (.other .valueError)
      | some length =>
          if (limit : Int) < length then mirrorError "Agent Card exceeds size limit"
          else boundedChunks limit [] response.chunks

def isRedirect (status : Nat) : Bool := decide (300 ≤ status ∧ status < 400)

/-- `raise_for_status` returns. -/
def isSuccess (status : Nat) : Bool := decide (200 ≤ status ∧ status < 300)

/-- The rounds that are left of the loop of `_fetch_document`: the requests, and the document
with the credential values. -/
def fetchFrom (target : Origin) :
    Nat → Nat → List Char → List String →
      List CardRequest × Except CardExc (Json × List String)
  | 0, _, _, _ => ([], mirrorError "Agent Card redirect limit exceeded")
  | rounds + 1, redirectCount, logicalUrl, known =>
      match mirror.validatedTarget redirectCount logicalUrl with
      | .error exc => ([], .error exc)
      | .ok validated =>
          match mirror.headersFor redirectCount { method := "GET", url := logicalUrl } with
          | .error exc => ([], .error (.other exc))
          | .ok credential =>
              let known := known ++ credentialValues credential
              let request : CardRequest :=
                { logicalUrl, credential, url := validated.url
                  headers := mergeHeaders credential validated.headers
                  sniHostname := validated.sniHostname }
              match mirror.stream redirectCount request with
              | .error exc => ([request], .error (.other exc))
              | .ok response =>
                  if isRedirect response.status then
                    match response.headers.joined? "location" with
                    | none | some "" => ([request], mirrorError "Agent Card redirect has no location")
                    | some location =>
                        if mirror.settings.maxRedirects ≤ redirectCount then
                          ([request], mirrorError "Agent Card redirect limit exceeded")
                        else
                          match mirror.urljoin logicalUrl location with
                          | .error exc => ([request], .error (.other exc))
                          | .ok redirected =>
                              match mirror.origin redirected with
                              | .error exc => ([request], .error exc)
                              | .ok next =>
                                  if next ≠ target then
                                    ([request], mirrorError "Agent Card redirect changed origin")
                                  else
                                    let rest := fetchFrom target rounds (redirectCount + 1)
                                      redirected known
                                    (request :: rest.1, rest.2)
                  else if !isSuccess response.status then ([request], .error (.other .httpError))
                  else
                    match mirror.boundedBody response with
                    | .error exc => ([request], .error exc)
                    | .ok body =>
                        match mirror.loads body with
                        | .error exc => ([request], .error (.other exc))
                        | .ok document => ([request], .ok (document, known))

def fetchDocument (logicalUrl : List Char) :
    List CardRequest × Except CardExc (Json × List String) :=
  match mirror.origin logicalUrl with
  | .error exc => ([], .error exc)
  | .ok target => mirror.fetchFrom target (mirror.settings.maxRedirects + 1) 0 logicalUrl []

/-! ### The public card -/

def publicInterfaces (card : AgentCard) : List AgentInterface :=
  card.supportedInterfaces.filterMap fun interface =>
    if interface.protocolVersion = "1.0" then
      (publicInterfacePath interface.protocolBinding).map fun path =>
        { interface with url := mirror.settings.publicBaseUrl ++ path }
    else none

/-- The projection of `_refresh`. -/
def publicCard (card : AgentCard) : Except CardExc AgentCard :=
  if mirror.publicInterfaces card = [] then
    mirrorError "Upstream does not expose an implemented A2A 1.0 profile"
  else if card.skills.all fun skill => !mirror.settings.approvedSkillIds.contains skill.id then
    mirrorError "No approved public Agent Card skills remain"
  else .ok
    { name := card.name, description := card.description, version := card.version
      defaultInputModes := card.defaultInputModes
      defaultOutputModes := card.defaultOutputModes, streaming := card.streaming
      supportedInterfaces := mirror.publicInterfaces card
      skills := card.skills.filter fun skill =>
        mirror.settings.approvedSkillIds.contains skill.id }

/-- The upstream origin, as `_ensure_no_private_reference` writes it. -/
def upstreamOrigin (parsed : SplitResult) : String := parsed.scheme ++ "://" ++ parsed.netloc

/-- `forbidden` of `_ensure_no_private_reference`. -/
def forbidden (parsed : SplitResult) (credentialValues : List String) : List String :=
  String.ofList mirror.settings.upstreamBaseUrl :: upstreamOrigin parsed :: credentialValues

/-- The search of `_ensure_no_private_reference` finds the value. -/
def discloses (document : Json) (value : String) : Bool :=
  value != "" &&
    mirror.folding.contains (dumpsJson mirror.floatText document) (codePoints value)

def ensureNoPrivateReference (document : Json) (credentialValues : List String) :
    Except CardExc Unit :=
  match urlsplit mirror.settings.upstreamBaseUrl with
  | .error _ => .error (.other .valueError)
  | .ok parsed =>
      if (mirror.forbidden parsed credentialValues).any (mirror.discloses document) then
        mirrorError "Public Agent Card contains a private reference"
      else .ok ()

/-- What leaves the `try` block of `_refresh`. -/
def invalidCard : CardExc → CardExc
  | .agentCardMirrorError message => .agentCardMirrorError message
  | .other .baseException => .other .baseException
  | .other _ => .agentCardMirrorError "Upstream Agent Card is invalid"

/-- The `try` block of `_refresh`: the requests, and the card with the credential values. -/
def fetchCard : List CardRequest × Except CardExc (AgentCard × List String) :=
  match mirror.cardUrl mirror.settings.upstreamBaseUrl with
  | .error exc => ([], .error (invalidCard (.other exc)))
  | .ok logicalUrl =>
      let fetched := mirror.fetchDocument logicalUrl
      match fetched.2 with
      | .error exc => (fetched.1, .error (invalidCard exc))
      | .ok (document, known) =>
          match mirror.parseDict document with
          | .error exc => (fetched.1, .error (invalidCard (.other exc)))
          | .ok card => (fetched.1, .ok (card, known))

/-- `_refresh`, from the fetched card on. -/
def publish (card : AgentCard) (credentialValues : List String) :
    Except CardExc MirroredAgentCard :=
  match mirror.publicCard card with
  | .error exc => .error exc
  | .ok shown =>
      let document := mirror.messageToDict shown
      match mirror.ensureNoPrivateReference document credentialValues with
      | .error exc => .error exc
      | .ok () => .ok
          { document, sourceSha256 := mirror.documentHash (mirror.messageToDict card)
            publicSha256 := mirror.documentHash document }

/-- `_refresh`, with the requests it sends. -/
def refresh : List CardRequest × Except CardExc MirroredAgentCard :=
  match mirror.fetchCard with
  | (requests, .error exc) => (requests, .error exc)
  | (requests, .ok (card, known)) => (requests, mirror.publish card known)

end AgentCardMirror

/-! ### A mirror -/

def foldAscii : CaseFolding where
  fold c := [if 0x41 ≤ c ∧ c ≤ 0x5A then c + 0x20 else c]
  ascii _ _ := rfl
  beyond c hc x hx := by
    rw [if_neg (by omega), List.mem_singleton] at hx
    omega

/-- A mirror without credential that resolves no name; it is answered with an empty document. -/
def mirrorExample (settings : MirrorSettings urlsplit) : AgentCardMirror urlsplit :=
  { settings, lower := id, cardUrl := fun base => .ok (base ++ agentCardPath)
    urljoin := fun _ _ => .error .valueError, ipAddress := fun _ => none
    copyWithHost := fun _ _ => .error .valueError, resolve := fun _ _ _ => .error .osError
    headersFor := fun _ _ => .ok []
    stream := fun _ _ => .ok { status := 200, headers := [], chunks := [.ok [123, 125]] }
    intOf := fun _ => none, loads := fun _ => .ok (.obj []), parseDict := fun _ => .error .valueError
    messageToDict := fun _ => .obj [], folding := foldAscii, floatText := fun _ => ""
    documentHash := fun _ => "" }

end Kin.Gateway
