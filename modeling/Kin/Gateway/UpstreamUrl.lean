import Kin.Gateway.App
import Kin.Py.Unquote
import Mathlib.Data.Bool.AllAny

/-!
The URL that is contacted upstream. The buffered JSON-RPC call lets the client put the
base URL in front of the path, the streamed one concatenates the two texts, and the REST
proxy and the Agent Card resolve the path as a reference against the base, which keeps
nothing of the path of the base and removes the dot segments of the request.
-/

namespace Kin.Gateway

open Kin.Py Kin.Lib

variable {urlsplit : List Char → Except PyExc SplitResult}

/-- The URL `AgentCardMirror._refresh` fetches. -/
def agentCardUrl (base : List Char) : Uri := Uri.resolve (Uri.parse base) agentCardPath

/-! ### Requests -/

/-- What the server and the router promise about a request to `proxy_rest` with a raw
path: it is absolute, and decoded it is the route and the rest. The pattern of the route
also matches in front of a final line feed. -/
structure RestRequest.Routed (request : RestRequest) (rawPath : List Char) : Prop where
  raw : request.rawPath = some (rawPath.map fun c => UInt8.ofNat c.toNat)
  ascii : ∀ c ∈ rawPath, c.toNat < 128
  absolute : rawPath.head? = some '/'
  rest : unquote rawPath = restRoute ++ '/' :: request.restPath ∨
    unquote rawPath = restRoute ++ '/' :: request.restPath ++ ['\n']

theorem decodeAscii_map {text : List Char} (h : ∀ c ∈ text, c.toNat < 128) :
    decodeAscii (text.map fun c => UInt8.ofNat c.toNat) = .ok text := by
  have hbyte : ∀ c ∈ text, (UInt8.ofNat c.toNat).toNat = c.toNat := by
    intro c hc
    have hascii := h c hc
    rw [UInt8.toNat_ofNat', Nat.mod_eq_of_lt (by omega)]
  have hall : ((text.map fun c => UInt8.ofNat c.toNat).all fun b => decide (b < 128)) = true := by
    rw [List.all_map, List.all_eq_true]
    intro c hc
    simp only [Function.comp_apply, decide_eq_true_eq, UInt8.lt_iff_toNat_lt, hbyte c hc]
    exact h c hc
  unfold decodeAscii
  rw [if_pos hall, List.map_map]
  have hid : text.map ((fun b : UInt8 => Char.ofNat b.toNat) ∘ fun c => UInt8.ofNat c.toNat) =
      text.map id := by
    apply List.map_congr_left
    intro c hc
    simp only [Function.comp_apply, hbyte c hc, Char.ofNat_toNat, id]
  rw [hid, List.map_id]

theorem RestRequest.Routed.target {request : RestRequest} {rawPath rawPath' query : List Char}
    (h : request.Routed rawPath) (htarget : request.target = .ok (rawPath', query)) :
    rawPath' = rawPath := by
  unfold RestRequest.target at htarget
  split at htarget
  · cases htarget
  rw [h.raw, Option.getD_some, decodeAscii_map h.ascii] at htarget
  split at htarget
  · rename_i hraw _
    cases hraw
    cases htarget
    rfl
  · cases htarget
  · cases htarget

theorem plain_slash : Plain '/' := ⟨by decide, by decide, by decide⟩

/-- It starts with one slash. -/
theorem RestRequest.Routed.slash {request : RestRequest} {rawPath : List Char}
    (h : request.Routed rawPath) : ∃ rest, rawPath = '/' :: rest ∧ rest.head? ≠ some '/' := by
  have hroute := h.rest
  cases rawPath with
  | nil => cases h.absolute
  | cons c rest =>
      cases h.absolute
      refine ⟨rest, rfl, fun hslash => ?_⟩
      cases rest with
      | nil => cases hslash
      | cons c rest =>
          cases hslash
          have hdecoded : unquote ('/' :: '/' :: rest) = '/' :: '/' :: unquote rest := by
            have hfirst := unquote_append plain_slash [] ('/' :: rest)
            have hsecond := unquote_append plain_slash [] rest
            rw [List.nil_append] at hfirst hsecond
            rw [hfirst, hsecond]
            rfl
          rw [hdecoded] at hroute
          rcases hroute with hroute | hroute <;> cases hroute

inductive UpstreamCall
  | jsonrpc (headers : Headers) (body : Bytes)
  | rest (request : RestRequest) (rawPath : List Char) (routed : request.Routed rawPath)
  | agentCard

def UpstreamCall.path : UpstreamCall → List Char
  | .jsonrpc _ _ => jsonrpcPath
  | .rest _ rawPath _ => rawPath
  | .agentCard => agentCardPath

def GatewayApp.contacts (gw : GatewayApp urlsplit) : UpstreamCall → List Uri
  | .jsonrpc headers body => (gw.proxyJsonrpc headers body).sent.map (·.url)
  | .rest request _ _ => (gw.proxyRest request).sent.map (·.url)
  | .agentCard => [agentCardUrl gw.settings.upstreamBaseUrl]

/-- What a call needs to be made under the base URL: a JSON-RPC call that the base has no
empty query or fragment, the others that it has no path either; and a REST call that its
path is resolved to itself. -/
def KeepsBase (base : List Char) : UpstreamCall → Prop
  | .jsonrpc _ _ => ∀ c ∈ base, Uri.inPath c = true
  | .rest _ rawPath _ =>
      (Uri.parse base).origin = base ∧ (∀ c ∈ rawPath, Uri.inPath c = true) ∧
        ∀ s ∈ rawPath.splitOn '/', Uri.isDot s = false
  | .agentCard => (Uri.parse base).origin = base

/-! ### The endpoints -/

theorem inPath_of_mem_parse {base : List Char} {c : Char}
    (h : c ∈ (Uri.parse base).endpoint) : Uri.inPath c = true := by
  rw [Uri.endpoint_parse] at h
  exact List.mem_takeWhile_imp h

theorem takeWhile_inPath_eq_self {text : List Char} :
    text.takeWhile Uri.inPath = text ↔ ∀ c ∈ text, Uri.inPath c = true := by
  rw [List.takeWhile_eq_self_iff]

/-- Concatenation keeps a base without query and fragment. -/
theorem endpoint_streamed (base : List Char) :
    (Uri.parse (base ++ jsonrpcPath)).endpoint = base ++ jsonrpcPath ↔
      ∀ c ∈ base, Uri.inPath c = true := by
  have hroute : ∀ c ∈ jsonrpcPath, Uri.inPath c = true := List.all_eq_true.mp (by decide)
  rw [Uri.endpoint_parse, takeWhile_inPath_eq_self]
  constructor
  · exact fun h c hc => h c (List.mem_append_left _ hc)
  · intro h c hc
    rcases List.mem_append.mp hc with hc | hc
    · exact h c hc
    · exact hroute c hc

theorem endpoint_mergeUrl {base : List Char} (h : (Uri.parse base).path.getLast? ≠ some '/') :
    (mergeUrl base jsonrpcPath).endpoint = (Uri.parse base).endpoint ++ jsonrpcPath := by
  have hroute : jsonrpcPath = '/' :: jsonrpcPath.dropWhile (· == '/') := by decide
  unfold mergeUrl
  dsimp only
  rw [if_neg h]
  conv => rhs; rw [hroute]
  unfold Uri.endpoint
  rw [List.append_assoc, List.append_assoc, List.singleton_append]
  rfl

/-- So does the merge of the client. -/
theorem endpoint_merged {base : List Char} (hslash : base.getLast? ≠ some '/') :
    (mergeUrl base jsonrpcPath).endpoint = base ++ jsonrpcPath ↔
      ∀ c ∈ base, Uri.inPath c = true := by
  have hparse := Uri.endpoint_parse base
  constructor
  · intro h c hc
    have hmem : c ∈ (mergeUrl base jsonrpcPath).endpoint := by
      rw [h]
      exact List.mem_append_left _ hc
    unfold mergeUrl Uri.endpoint at hmem
    dsimp only at hmem
    rcases List.mem_append.mp hmem with hmem | hmem
    · exact inPath_of_mem_parse (List.mem_append_left _ hmem)
    rcases List.mem_append.mp hmem with hmem | hmem
    · split at hmem
      · exact inPath_of_mem_parse (List.mem_append_right _ hmem)
      · rcases List.mem_append.mp hmem with hmem | hmem
        · exact inPath_of_mem_parse (List.mem_append_right _ hmem)
        · rw [List.mem_singleton.mp hmem]
          decide
    · have hroute : ∀ c ∈ jsonrpcPath.dropWhile (· == '/'), Uri.inPath c = true :=
        List.all_eq_true.mp (by decide)
      exact hroute c hmem
  · intro h
    rw [takeWhile_inPath_eq_self.mpr h] at hparse
    have hpath : (Uri.parse base).path.getLast? ≠ some '/' := by
      intro hlast
      have hbase : (Uri.parse base).endpoint.getLast? = some '/' := by
        unfold Uri.endpoint
        rw [List.getLast?_append, hlast]
        rfl
      rw [hparse] at hbase
      exact hslash hbase
    rw [endpoint_mergeUrl hpath, hparse]

theorem length_origin_le (base : List Char) : (Uri.parse base).origin <+: base := by
  have hparse := Uri.endpoint_parse base
  have htake : base.takeWhile Uri.inPath <+: base := List.takeWhile_prefix _
  rw [← hparse] at htake
  exact (List.prefix_append _ _).trans htake

/-- Resolution keeps the base just when it has no path, and the path just when it has
no dot segments. -/
theorem endpoint_resolved {base rest : List Char} (hrest : rest.head? ≠ some '/') :
    (Uri.resolve (Uri.parse base) ('/' :: rest)).endpoint = base ++ '/' :: rest ↔
      (Uri.parse base).origin = base ∧ (∀ c ∈ '/' :: rest, Uri.inPath c = true) ∧
        ∀ s ∈ ('/' :: rest).splitOn '/', Uri.isDot s = false := by
  obtain ⟨horigin, hpath⟩ := Uri.resolve_absolute (Uri.parse base) hrest
  have hslash : Uri.inPath '/' = true := by decide
  have hsplit : ('/' :: rest).splitOn '/' = [] :: rest.splitOn '/' := by
    rw [List.splitOn_cons_eq_if_modifyHead]
    rfl
  have hdots : (∀ s ∈ ('/' :: rest).splitOn '/', Uri.isDot s = false) ↔
      ∀ s ∈ rest.splitOn '/', Uri.isDot s = false := by
    rw [hsplit, List.forall_mem_cons]
    exact and_iff_right rfl
  unfold Uri.endpoint
  rw [horigin, hpath, List.takeWhile_cons_of_pos hslash, hdots]
  constructor
  · -- nothing grows, so that equal lengths leave every part as it was
    intro h
    have hlength := congrArg List.length h
    have hshorter := Uri.length_removeDotSegments (rest.takeWhile Uri.inPath)
    have htake : rest.takeWhile Uri.inPath <+: rest := List.takeWhile_prefix _
    have hbase := length_origin_le base
    have hle := hbase.length_le
    have hle' := htake.length_le
    simp only [List.length_append, List.length_cons] at hlength
    have heq : (Uri.parse base).origin = base := hbase.eq_of_length (by omega)
    have hwhole : rest.takeWhile Uri.inPath = rest := htake.eq_of_length (by omega)
    rw [heq, hwhole] at h
    refine ⟨heq, ?_, Uri.removeDotSegments_eq_self.mp (List.append_cancel_left h)⟩
    rw [List.forall_mem_cons]
    exact ⟨hslash, takeWhile_inPath_eq_self.mp hwhole⟩
  · rintro ⟨heq, hchars, hfree⟩
    rw [takeWhile_inPath_eq_self.mpr fun c hc => hchars c (List.mem_cons_of_mem _ hc), heq,
      Uri.removeDotSegments_eq_self.mpr hfree]

/-- A call is made under the base URL just when the base and the path of the call are
kept by the way it composes the two. -/
theorem endpoint_eq_base_append_iff (gw : GatewayApp urlsplit) (call : UpstreamCall) (url : Uri)
    (h : url ∈ gw.contacts call) :
    url.endpoint = gw.settings.upstreamBaseUrl ++ call.path ↔
      KeepsBase gw.settings.upstreamBaseUrl call := by
  cases call with
  | jsonrpc headers body =>
      obtain ⟨up, hup, rfl⟩ := List.mem_map.mp h
      obtain ⟨credential, url, -, hurl, rfl⟩ := GatewayApp.mem_sent_proxyJsonrpc hup
      rcases hurl with rfl | rfl
      · exact endpoint_streamed gw.settings.upstreamBaseUrl
      · exact endpoint_merged gw.settings.getLast?_base
  | rest request rawPath routed =>
      obtain ⟨up, hup, rfl⟩ := List.mem_map.mp h
      obtain ⟨rawPath', query, credential, htarget, -, -, rfl⟩ := GatewayApp.mem_sent_proxyRest hup
      obtain rfl := routed.target htarget
      obtain ⟨rest, rfl, hrest⟩ := routed.slash
      exact endpoint_resolved hrest
  | agentCard =>
      obtain rfl := List.mem_singleton.mp h
      have hrest : ".well-known/agent-card.json".toList.head? ≠ some '/' := by decide
      have hcard := @endpoint_resolved gw.settings.upstreamBaseUrl _ hrest
      change (Uri.resolve _ ('/' :: ".well-known/agent-card.json".toList)).endpoint =
        _ ++ '/' :: ".well-known/agent-card.json".toList ↔ _
      rw [hcard]
      constructor
      · exact And.left
      · exact fun h => ⟨h, List.all_eq_true.mp (by decide), by decide⟩

def mountedSettings : GatewaySettings splitAgentExample :=
  { upstreamBaseUrl := "https://agent.example/base".toList
    accepted := ⟨"https://agent.example/base".toList, by decide, rfl⟩ }

def listTasks : UpstreamCall :=
  .rest (getTasks "/a2a/rest/tasks".toList "tasks".toList) "/a2a/rest/tasks".toList
    { raw := rfl
      ascii := List.all_iff_forall_prop.mp (by decide)
      absolute := rfl
      rest := .inl (by decide) }

/-- Under a base without path, the tasks are listed where they should be. -/
theorem tasks_listed_under_root :
    (restUrl "https://agent.example".toList "/a2a/rest/tasks".toList []).endpoint =
      "https://agent.example/a2a/rest/tasks".toList :=
  (endpoint_eq_base_append_iff (agentExample rootSettings) listTasks
    (restUrl "https://agent.example".toList "/a2a/rest/tasks".toList [])
    (by decide)).mpr ⟨by decide, List.all_eq_true.mp (by decide), by decide⟩

/-- Under a base with a path, they are looked for beside it. -/
theorem tasks_listed_beside_base :
    ¬∀ url ∈ (agentExample mountedSettings).contacts listTasks,
      url.endpoint = mountedSettings.upstreamBaseUrl ++ listTasks.path := by
  decide

end Kin.Gateway
