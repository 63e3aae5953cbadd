import Kin.Gateway.Streaming
import Kin.Lib.Uri

/-!
The data plane of `kin_gateway/app.py`. A handler returns what it sent upstream, what it
recorded and what came of the request. The credential provider, which has the headers or
raises an `UpstreamCredentialError`, the HTTP exchange with the upstream and the parsing of
a version are parameters; `httpx` itself adds the `Host` and `Content-Length` headers,
which are left out.
-/

namespace Kin.Gateway

open Kin.Py Kin.Lib

def agentCardPath : List Char := "/.well-known/agent-card.json".toList
def jsonrpcPath : List Char := "/a2a/jsonrpc".toList
def restRoute : List Char := "/a2a/rest".toList

def forwardedRequestHeaders : List String :=
  ["content-type", "accept", "a2a-version", "a2a-extensions", "last-event-id"]

def forwardedResponseHeaders : List String :=
  ["content-type", "cache-control", "a2a-version", "etag", "content-location", "retry-after",
   "content-encoding"]

/-- `_selected_headers`, over the lookup of the mapping. -/
def selectedHeaders (lookup : String → Option String) (allowed : List String) : Headers :=
  allowed.filterMap fun name => (lookup name).map fun value => (name, value)

/-- A lookup in the headers of a response, which joins the values of a name. -/
def Headers.joined? (headers : Headers) (name : String) : Option String :=
  match headers.values name with
  | [] => none
  | values => some (", ".intercalate values)

/-! ### The upstream -/

structure RequestContext where
  method : String
  url : List Char

structure UpstreamRequest where
  method : String
  url : Uri
  headers : Headers
  body : Bytes

structure UpstreamResponse (β : Type) where
  status : Nat
  headers : Headers
  body : β

inductive StreamEnding
  | finished
  | timeoutError
  | httpError
  deriving DecidableEq

structure UpstreamStream where
  chunks : List Bytes
  ending : StreamEnding

/-- How the body of a streamed response comes to an end for the client. -/
inductive BodyEnding
  | upstream (ending : StreamEnding)
  | raised (exc : GatewayExc)
  | never
  deriving DecidableEq

/-- The errors of the A2A SDK that the gateway answers with. -/
inductive RestError
  | versionNotSupported
  | pushNotificationNotSupported
  | unsupportedOperation
  deriving DecidableEq

inductive Response
  | jsonrpcError (requestId : Json) (code : Int) (message : String)
  | restError (status : Nat) (error : RestError)
  | detail (status : Nat) (detail : String)
  | buffered (status : Nat) (headers : Headers) (content : Bytes)
  | streamed (status : Nat) (headers : Headers) (chunks : List Bytes) (ending : BodyEnding)

inductive Result
  | response (response : Response)
  | raised (exc : GatewayExc)
  | never

structure Handled where
  sent : List UpstreamRequest
  records : List ExternalTaskSession
  result : Result

def Handled.raising (exc : GatewayExc) : Handled := { sent := [], records := [], result := .raised exc }

structure GatewayApp (urlsplit : List Char → Except PyExc SplitResult) extends Observation where
  settings : GatewaySettings urlsplit
  headersFor : RequestContext → Option Headers
  clientDefaults : Headers
  release : String → Option (List Nat)
  send : UpstreamRequest → Except GatewayExc (UpstreamResponse Bytes)
  sendStream : UpstreamRequest → Except GatewayExc (UpstreamResponse UpstreamStream)

variable {urlsplit : List Char → Except PyExc SplitResult}

/-- `_supports_a2a_version`, over the release numbers of a parsed version. -/
def GatewayApp.supportsA2aVersion (gw : GatewayApp urlsplit) (value : Option String) : Bool :=
  value.any fun v => v != "" && (gw.release v).any fun release => release.take 2 == [1, 0]

/-- The exceptions a proxy turns into an answer. -/
def handledByProxy (exc : GatewayExc) : Bool :=
  exc == .httpError || exc == .upstreamCredentialError

def unavailable : Response := .detail 502 "Protected A2A upstream is unavailable"

/-- The request for one upstream call: the credential is among the headers of the client,
and the headers of the request are put over them. -/
def GatewayApp.upstreamRequest (gw : GatewayApp urlsplit) (credential : Headers) (method : String)
    (url : Uri) (body : Bytes) (headers : Headers) : UpstreamRequest :=
  { method, url, body, headers := (gw.clientDefaults.update credential).update headers }

def GatewayApp.exchange {β : Type} (gw : GatewayApp urlsplit)
    (send : UpstreamRequest → Except GatewayExc (UpstreamResponse β)) (context : RequestContext)
    (url : Uri) (body : Bytes) (headers : Headers) :
    List UpstreamRequest × Except GatewayExc (UpstreamResponse β) :=
  match gw.headersFor context with
  | none => ([], .error .upstreamCredentialError)
  | some credential =>
      let request := gw.upstreamRequest credential context.method url body headers
      ([request], send request)

def Observation.completing (o : Observation) (tracker : Tracker) (outcome : Outcome)
    (responseBody : Option Bytes) (sent : List UpstreamRequest) (result : Result) : Handled :=
  match o.complete tracker outcome responseBody with
  | (record, .done) => { sent, records := record.toList, result }
  | (record, .raised exc) => { sent, records := record.toList, result := .raised exc }
  | (record, .never) => { sent, records := record.toList, result := .never }

/-- A buffered call: the `try` block around it, and what follows. -/
def GatewayApp.buffered (gw : GatewayApp urlsplit) (tracker : Tracker) (context : RequestContext)
    (url : Uri) (body : Bytes) (headers : Headers) : Handled :=
  match gw.exchange gw.send context url body headers with
  | (sent, .error exc) =>
      if handledByProxy exc then
        gw.completing tracker .upstreamUnavailable none sent (.response unavailable)
      else { sent, records := [], result := .raised exc }
  | (sent, .ok upstream) =>
      gw.completing tracker .forwarded (some upstream.body) sent
        (.response (.buffered upstream.status
          (selectedHeaders upstream.headers.joined? forwardedResponseHeaders) upstream.body))

/-- The outcome `forward_body` records for a client that reads to the end. -/
def StreamEnding.outcome : StreamEnding → Outcome
  | .finished => .forwarded
  | .timeoutError => .upstreamTimeout
  | .httpError => .upstreamDisconnected

/-- `streaming_upstream_response`, for a client that reads the response to its end. -/
def GatewayApp.streamed (gw : GatewayApp urlsplit) (tracker : Tracker) (context : RequestContext)
    (url : Uri) (body : Bytes) (headers : Headers) : Handled :=
  match gw.exchange gw.sendStream context url body headers with
  | (sent, .error exc) =>
      if handledByProxy exc then
        gw.completing tracker .upstreamUnavailable none sent (.response unavailable)
      else { sent, records := [], result := .raised exc }
  | (sent, .ok upstream) =>
      let (record, completion) := gw.complete tracker upstream.body.ending.outcome none
      let ending :=
        match completion with
        | .done => .upstream upstream.body.ending
        | .raised exc => .raised exc
        | .never => .never
      { sent, records := record.toList
        result := .response (.streamed upstream.status
          (selectedHeaders upstream.headers.joined? forwardedResponseHeaders)
          upstream.body.chunks ending) }

/-! ### JSON-RPC -/

/-- The parsed body; what is no JSON counts as an empty object. -/
def Observation.jsonrpcRequest (o : Observation) (body : Bytes) : Except GatewayExc Json :=
  match o.loads body with
  | .ok document => .ok document
  | .error .valueError | .error .typeError => .ok (.obj [])
  | .error exc => .error exc

def requestMethodOf : Json → PyStr
  | .obj fields =>
      match Fields.get? fields "method" with
      | some (.str method) => method
      | _ => .text "POST"
  | _ => .text "POST"

/-- Whether the request asks for a stream. The test is membership in a set, and what
cannot be hashed raises. -/
def asksForStream : Json → Except GatewayExc Bool
  | .obj fields =>
      let method := Fields.getD fields "method" .null
      if !method.hashable then .error .typeError
      else
        match method with
        | .str (.text name) => .ok (name == "SendStreamingMessage" || name == "SubscribeToTask")
        | _ => .ok false
  | _ => .ok false

/-- `client.post(path)` under a base URL: the path of the base comes first. For a base with a
`?` this is not what httpx sends: there it puts the path of the route into the query. -/
def mergeUrl (base path : List Char) : Uri :=
  let parsed := Uri.parse base
  let basePath := if parsed.path.getLast? = some '/' then parsed.path else parsed.path ++ ['/']
  { parsed with path := basePath ++ path.dropWhile (· == '/') }

def GatewayApp.proxyJsonrpc (gw : GatewayApp urlsplit) (headers : Headers) (body : Bytes) : Handled :=
  match gw.jsonrpcRequest body with
  | .error exc => .raising exc
  | .ok document =>
      let base := gw.settings.upstreamBaseUrl
      match gw.track { transport := "JSONRPC", requestMethod := requestMethodOf document
                       target := String.ofList jsonrpcPath, headers, body } base with
      | .error exc => .raising exc
      | .ok tracker =>
          if !gw.supportsA2aVersion (headers.get? "a2a-version") then
            gw.completing tracker .unsupportedVersion none []
              (.response (.jsonrpcError ((memberOr document "id" .null).getD .null) (-32009)
                "Version not supported"))
          else
            let context := { method := "POST", url := base ++ jsonrpcPath }
            let selected := selectedHeaders headers.get? forwardedRequestHeaders
            match asksForStream document with
            | .error exc => .raising exc
            | .ok true =>
                gw.streamed tracker context (Uri.parse (base ++ jsonrpcPath)) body selected
            | .ok false => gw.buffered tracker context (mergeUrl base jsonrpcPath) body selected

/-! ### REST -/

/-- `tasks/[^/]+` with a suffix: the identifier is not empty and is one segment. -/
def isTaskPath (suffix path : List Char) : Bool :=
  let taskId := path.drop 6
  "tasks/".toList.isPrefixOf path && suffix.isSuffixOf taskId &&
    decide (suffix.length < taskId.length) && !taskId.contains '/'

def isNonstreamingRestOperation (method : String) (path : List Char) : Bool :=
  (method == "POST" && path == "message:send".toList) ||
    (method == "GET" && path == "tasks".toList) ||
    (method == "GET" && isTaskPath [] path) ||
    (method == "POST" && isTaskPath ":cancel".toList path)

def isStreamingRestOperation (method : String) (path : List Char) : Bool :=
  (method == "POST" && path == "message:stream".toList) ||
    ((method == "GET" || method == "POST") && isTaskPath ":subscribe".toList path)

/-- `tasks/[^/]+/pushNotificationConfigs(?:/[^/]+)?`. -/
def isPushNotificationPath (path : List Char) : Bool :=
  match path.splitOn '/' with
  | [tasks, taskId, configs] =>
      tasks == "tasks".toList && !taskId.isEmpty && configs == "pushNotificationConfigs".toList
  | [tasks, taskId, configs, configId] =>
      tasks == "tasks".toList && !taskId.isEmpty && configs == "pushNotificationConfigs".toList &&
        !configId.isEmpty
  | _ => false

def knownUnsupportedRestError (path : List Char) : Option RestError :=
  if isPushNotificationPath path then some .pushNotificationNotSupported
  else if path == "extendedAgentCard".toList then some .unsupportedOperation
  else none

/-- What `proxy_rest` reads of a request. `rest_path` comes from the router, and
`request.url.path` is the framework's. -/
structure RestRequest where
  method : String
  restPath : List Char
  rawPath : Option Bytes
  urlPath : List Char
  queryString : Option Bytes := none
  headers : Headers
  body : Bytes

def encodeAscii (text : List Char) : Except GatewayExc Bytes :=
  if text.all fun c => decide (c.toNat < 128) then .ok (text.map fun c => UInt8.ofNat c.toNat)
  else .error .unicodeEncodeError

def decodeAscii (bytes : Bytes) : Except GatewayExc (List Char) :=
  if bytes.all fun b => decide (b < 128) then .ok (bytes.map fun b => Char.ofNat b.toNat)
  else .error .unicodeDecodeError

/-- The raw path and the query of a request, as text. The default of the lookup of
`raw_path` is evaluated in any case. -/
def RestRequest.target (request : RestRequest) : Except GatewayExc (List Char × List Char) :=
  match encodeAscii request.urlPath with
  | .error exc => .error exc
  | .ok urlPath =>
      match decodeAscii (request.rawPath.getD urlPath),
          decodeAscii (request.queryString.getD []) with
      | .ok rawPath, .ok query => .ok (rawPath, query)
      | .error exc, _ => .error exc
      | _, .error exc => .error exc

/-- `httpx.URL(base).join(raw_path)` with the query of the request. -/
def restUrl (base rawPath query : List Char) : Uri :=
  { Uri.resolve (Uri.parse base) rawPath with query := some query }

def urlText (url : Uri) : List Char :=
  url.endpoint ++ url.query.elim [] (fun q => '?' :: q) ++ url.fragment.elim [] (fun f => '#' :: f)

def GatewayApp.proxyRest (gw : GatewayApp urlsplit) (request : RestRequest) : Handled :=
  match request.target with
  | .error exc => .raising exc
  | .ok (rawPath, query) =>
      let base := gw.settings.upstreamBaseUrl
      let url := restUrl base rawPath query
      let target := if query = [] then rawPath else rawPath ++ '?' :: query
      match gw.track { transport := "HTTP+JSON", requestMethod := .text request.method
                       target := String.ofList target, headers := request.headers
                       body := request.body } base with
      | .error exc => .raising exc
      | .ok tracker =>
          let isStreaming := isStreamingRestOperation request.method request.restPath
          match knownUnsupportedRestError request.restPath with
          | some error =>
              gw.completing tracker .unsupportedOperation none []
                (.response (.restError 400 error))
          | none =>
              if !(isStreaming || isNonstreamingRestOperation request.method request.restPath) then
                gw.completing tracker .unsupportedOperation none []
                  (.response (.detail 404 "A2A operation is unsupported"))
              else if !gw.supportsA2aVersion (request.headers.get? "a2a-version") then
                gw.completing tracker .unsupportedVersion none []
                  (.response (.restError 400 .versionNotSupported))
              else
                let context := { method := request.method, url := urlText url }
                let selected := selectedHeaders request.headers.get? forwardedRequestHeaders
                if isStreaming then gw.streamed tracker context url request.body selected
                else gw.buffered tracker context url request.body selected

/-! ### What is sent -/

@[simp] theorem sent_raising (exc : GatewayExc) : (Handled.raising exc).sent = [] := rfl

@[simp] theorem Observation.sent_completing (o : Observation) (tracker : Tracker)
    (outcome : Outcome) (responseBody : Option Bytes) (sent : List UpstreamRequest)
    (result : Result) : (o.completing tracker outcome responseBody sent result).sent = sent := by
  unfold Observation.completing
  split <;> rfl

section

variable {gw : GatewayApp urlsplit} {tracker : Tracker} {context : RequestContext} {url : Uri}
  {body : Bytes} {headers : Headers} {up : UpstreamRequest}

theorem GatewayApp.sent_buffered :
    (gw.buffered tracker context url body headers).sent =
      (gw.exchange gw.send context url body headers).1 := by
  unfold GatewayApp.buffered
  split
  · rename_i heq
    rw [heq]
    split
    · exact Observation.sent_completing _ _ _ _ _ _
    · rfl
  · rename_i heq
    rw [heq]
    exact Observation.sent_completing _ _ _ _ _ _

theorem GatewayApp.sent_streamed :
    (gw.streamed tracker context url body headers).sent =
      (gw.exchange gw.sendStream context url body headers).1 := by
  unfold GatewayApp.streamed
  split
  · rename_i heq
    rw [heq]
    split
    · exact Observation.sent_completing _ _ _ _ _ _
    · rfl
  · rename_i heq
    rw [heq]

theorem GatewayApp.mem_exchange {β : Type}
    {send : UpstreamRequest → Except GatewayExc (UpstreamResponse β)}
    (h : up ∈ (gw.exchange send context url body headers).1) :
    ∃ credential, gw.headersFor context = some credential ∧
      up = gw.upstreamRequest credential context.method url body headers := by
  unfold GatewayApp.exchange at h
  split at h
  · cases h
  · rename_i credential hcredential
    exact ⟨credential, hcredential, List.mem_singleton.mp h⟩

/-- The request a JSON-RPC call is forwarded as. -/
theorem GatewayApp.mem_sent_proxyJsonrpc (h : up ∈ (gw.proxyJsonrpc headers body).sent) :
    ∃ credential url,
      gw.headersFor { method := "POST", url := gw.settings.upstreamBaseUrl ++ jsonrpcPath } =
        some credential ∧
      (url = Uri.parse (gw.settings.upstreamBaseUrl ++ jsonrpcPath) ∨
        url = mergeUrl gw.settings.upstreamBaseUrl jsonrpcPath) ∧
      up = gw.upstreamRequest credential "POST" url body
        (selectedHeaders headers.get? forwardedRequestHeaders) := by
  unfold GatewayApp.proxyJsonrpc at h
  split at h
  · cases h
  dsimp only at h
  split at h
  · cases h
  split at h
  · rw [Observation.sent_completing] at h
    cases h
  split at h
  · cases h
  · rw [GatewayApp.sent_streamed] at h
    obtain ⟨credential, hcredential, hup⟩ := GatewayApp.mem_exchange h
    exact ⟨credential, _, hcredential, .inl rfl, hup⟩
  · rw [GatewayApp.sent_buffered] at h
    obtain ⟨credential, hcredential, hup⟩ := GatewayApp.mem_exchange h
    exact ⟨credential, _, hcredential, .inr rfl, hup⟩

/-- The request a REST call is forwarded as, and what let it through. -/
theorem GatewayApp.mem_sent_proxyRest {request : RestRequest}
    (h : up ∈ (gw.proxyRest request).sent) :
    ∃ rawPath query credential,
      request.target = .ok (rawPath, query) ∧
      (isStreamingRestOperation request.method request.restPath = true ∨
        isNonstreamingRestOperation request.method request.restPath = true) ∧
      gw.headersFor
          { method := request.method
            url := urlText (restUrl gw.settings.upstreamBaseUrl rawPath query) } =
        some credential ∧
      up = gw.upstreamRequest credential request.method
        (restUrl gw.settings.upstreamBaseUrl rawPath query) request.body
        (selectedHeaders request.headers.get? forwardedRequestHeaders) := by
  unfold GatewayApp.proxyRest at h
  split at h
  · cases h
  rename_i rawPath query htarget
  dsimp only at h
  split at h
  · cases h
  split at h
  · rw [Observation.sent_completing] at h
    cases h
  split at h
  · rw [Observation.sent_completing] at h
    cases h
  rename_i haccepted
  rw [Bool.not_eq_true, Bool.not_eq_false', Bool.or_eq_true] at haccepted
  split at h
  · rw [Observation.sent_completing] at h
    cases h
  split at h
  · rw [GatewayApp.sent_streamed] at h
    obtain ⟨credential, hcredential, hup⟩ := GatewayApp.mem_exchange h
    exact ⟨rawPath, query, credential, htarget, haccepted, hcredential, hup⟩
  · rw [GatewayApp.sent_buffered] at h
    obtain ⟨credential, hcredential, hup⟩ := GatewayApp.mem_exchange h
    exact ⟨rawPath, query, credential, htarget, haccepted, hcredential, hup⟩

end

/-! ### A gateway in front of `agent.example` -/

/-- `urlsplit` on the base URLs of that host. -/
def splitAgentExample : List Char → Except PyExc SplitResult := fun _ =>
  .ok { scheme := "https", netloc := "agent.example", hostname := some "agent.example"
        username := none, password := none, query := "", fragment := "", port := .ok none }

def rootSettings : GatewaySettings splitAgentExample :=
  { upstreamBaseUrl := "https://agent.example".toList
    accepted := ⟨"https://agent.example/".toList, by decide, rfl⟩ }

/-- A gateway without credential and observer, whose upstream answers everything with an
empty document. -/
def agentExample (settings : GatewaySettings splitAgentExample) : GatewayApp splitAgentExample :=
  { loads := fun _ => .ok (.obj []), sha256 := fun _ => "", observer := none, settings
    headersFor := fun _ => some [], clientDefaults := [("accept", "*/*")]
    release := fun v => if v = "1.0" then some [1, 0] else none
    send := fun _ => .ok { status := 200, headers := [], body := [123, 125] }
    sendStream := fun _ => .ok
      { status := 200, headers := [], body := { chunks := [], ending := .finished } } }

/-- `GET /a2a/rest/tasks` with more segments or less. -/
def getTasks (rawPath restPath : List Char) : RestRequest :=
  { method := "GET", restPath, rawPath := some (rawPath.map fun c => UInt8.ofNat c.toNat)
    urlPath := rawPath, headers := [("a2a-version", "1.0")], body := [] }

end Kin.Gateway
