import Kin.Gateway.App

/-!
`kin_gateway/upstream/credentials.py`, and whose authority an upstream request carries.
The credential is a header of the client; five headers of the caller are headers of the
request, which win over those of the client. The names a credential may not have leave
out two of the five.
-/

namespace Kin.Gateway

open Kin.Py Kin.Lib

variable {urlsplit : List Char → Except PyExc SplitResult}

/-! ### The provider -/

/-- `_validate_header`. -/
def validHeader (name value : String) : Bool :=
  match validateHeaderName (some name) with
  | .error _ => false
  | .ok _ =>
      !missing (some name) && value != "" && !value.toList.contains '\r' &&
        !value.toList.contains '\n'

/-- `SecretBackedCredentialProvider.headers_for`, for a provider of secrets that may
raise; `none` is an `UpstreamCredentialError`. -/
def secretBackedHeaders (settings : UpstreamCredentialSettings)
    (getSecret : String → Except PyExc String) : Option Headers :=
  match getSecret (settings.secretRef.getD "") with
  | .error _ => none
  | .ok secret =>
      let name := settings.headerName.getD ""
      let value := settings.valuePrefix ++ secret
      if secret = "" then none
      else if validHeader name value then some [(name, value)]
      else none

structure GatewayApp.Holds (gw : GatewayApp urlsplit) (settings : UpstreamCredentialSettings)
    (getSecret : String → Except PyExc String) : Prop where
  mode : settings.mode = .headerMode
  headers : ∀ context, gw.headersFor context = secretBackedHeaders settings getSecret

/-! ### Callers -/

inductive CallerRequest
  | jsonrpc (headers : Headers) (body : Bytes)
  | rest (request : RestRequest)

def CallerRequest.headers : CallerRequest → Headers
  | .jsonrpc headers _ => headers
  | .rest request => request.headers

def CallerRequest.withHeaders (headers : Headers) : CallerRequest → CallerRequest
  | .jsonrpc _ body => .jsonrpc headers body
  | .rest request => .rest { request with headers }

def GatewayApp.sentFor (gw : GatewayApp urlsplit) : CallerRequest → List UpstreamRequest
  | .jsonrpc headers body => (gw.proxyJsonrpc headers body).sent
  | .rest request => (gw.proxyRest request).sent

def AgreeOnForwarded (headers headers' : Headers) : Prop :=
  ∀ name ∈ forwardedRequestHeaders, headers.get? name = headers'.get? name

/-- The configured header says what it should, and the other headers of the caller make
no difference. -/
structure GatewayApp.KeepsAuthority (gw : GatewayApp urlsplit)
    (settings : UpstreamCredentialSettings) (secret : String) (request : CallerRequest)
    (up : UpstreamRequest) : Prop where
  credential : up.headers.values (settings.headerName.getD "") = [settings.valuePrefix ++ secret]
  caller : ∀ headers, AgreeOnForwarded request.headers headers →
    gw.sentFor (request.withHeaders headers) = gw.sentFor request

/-! ### The headers of the caller -/

theorem selectedHeaders_congr {headers headers' : Headers} (h : AgreeOnForwarded headers headers') :
    selectedHeaders headers.get? forwardedRequestHeaders =
      selectedHeaders headers'.get? forwardedRequestHeaders := by
  apply List.filterMap_congr
  intro name hname
  rw [h name hname]

theorem sent_proxyJsonrpc_congr (gw : GatewayApp urlsplit) {headers headers' : Headers}
    (h : AgreeOnForwarded headers headers') (body : Bytes) :
    (gw.proxyJsonrpc headers' body).sent = (gw.proxyJsonrpc headers body).sent := by
  have hversion := h "a2a-version" (by decide)
  have hselected := selectedHeaders_congr h
  unfold GatewayApp.proxyJsonrpc
  split
  · rfl
  rename_i document hdocument
  dsimp only
  rw [Observation.track_eq, Observation.track_eq]
  dsimp only
  rw [← hversion, ← hselected]
  split
  · rename_i htrack
    split at htrack
    · rename_i hsurrogate
      rw [if_pos hsurrogate]
      rfl
    · cases htrack
  · rename_i htrack
    split at htrack
    · cases htrack
    rename_i hsurrogate
    rw [if_neg hsurrogate]
    dsimp only
    split
    · rw [Observation.sent_completing, Observation.sent_completing]
    split
    · rfl
    · rw [GatewayApp.sent_streamed, GatewayApp.sent_streamed]
    · rw [GatewayApp.sent_buffered, GatewayApp.sent_buffered]

theorem sent_proxyRest_congr (gw : GatewayApp urlsplit) (request : RestRequest) {headers : Headers}
    (h : AgreeOnForwarded request.headers headers) :
    (gw.proxyRest { request with headers }).sent = (gw.proxyRest request).sent := by
  have hversion := h "a2a-version" (by decide)
  have hselected := selectedHeaders_congr h
  have htarget : RestRequest.target { request with headers } = request.target := rfl
  have hmethod : (PyStr.text request.method).codePoints.any isSurrogate = false :=
    any_codePoints request.method
  unfold GatewayApp.proxyRest
  rw [htarget]
  cases request.target with
  | error exc => rfl
  | ok target =>
      obtain ⟨rawPath, query⟩ := target
      dsimp only
      rw [Observation.track_eq, Observation.track_eq, ← hversion, ← hselected]
      dsimp only
      rw [hmethod, if_neg Bool.false_ne_true, if_neg Bool.false_ne_true]
      dsimp only
      split
      · rw [Observation.sent_completing, Observation.sent_completing]
      split
      · rw [Observation.sent_completing, Observation.sent_completing]
      split
      · rw [Observation.sent_completing, Observation.sent_completing]
      split
      · rw [GatewayApp.sent_streamed, GatewayApp.sent_streamed]
      · rw [GatewayApp.sent_buffered, GatewayApp.sent_buffered]

/-- Headers that are not forwarded make no difference. -/
theorem sentFor_withHeaders (gw : GatewayApp urlsplit) (request : CallerRequest) {headers : Headers}
    (h : AgreeOnForwarded request.headers headers) :
    gw.sentFor (request.withHeaders headers) = gw.sentFor request := by
  cases request with
  | jsonrpc headers' body => exact sent_proxyJsonrpc_congr gw h body
  | rest request => exact sent_proxyRest_congr gw request h

/-! ### The configured header -/

theorem filter_lowerName {names : List String} (hnodup : (names.map lowerName).Nodup)
    (name : String) :
    names.filter (sameName · name) = [] ∨
      ∃ n ∈ names, sameName n name = true ∧ names.filter (sameName · name) = [n] := by
  induction names with
  | nil => exact .inl rfl
  | cons n names ih =>
      rw [List.map_cons, List.nodup_cons] at hnodup
      cases hn : sameName n name with
      | true =>
          right
          refine ⟨n, List.mem_cons_self, hn, ?_⟩
          rw [List.filter_cons, if_pos hn]
          congr 1
          rw [List.filter_eq_nil_iff]
          intro n' hn' hsame
          apply hnodup.1
          rw [sameName_iff.mp hn, ← sameName_iff.mp hsame]
          exact List.mem_map_of_mem hn'
      | false =>
          rw [List.filter_cons, if_neg (Bool.eq_false_iff.mp hn)]
          rcases ih hnodup.2 with hnone | ⟨n', hn', hsame, hfilter⟩
          · exact .inl hnone
          · exact .inr ⟨n', List.mem_cons_of_mem n hn', hsame, hfilter⟩

theorem values_selectedHeaders (lookup : String → Option String) (allowed : List String)
    (name : String) :
    (selectedHeaders lookup allowed).values name =
      (allowed.filter (sameName · name)).filterMap lookup := by
  induction allowed with
  | nil => rfl
  | cons n allowed ih =>
      unfold selectedHeaders Headers.values at ih ⊢
      cases hvalue : lookup n with
      | none =>
          cases hn : sameName n name with
          | true => simp [hn, hvalue, ih]
          | false => simp [hn, hvalue, ih]
      | some value =>
          cases hn : sameName n name with
          | true => simp [hn, hvalue, ih]
          | false => simp [hn, hvalue, ih]

/-- A forwarded header of the configured name takes the place of the credential. -/
theorem values_upstreamRequest_iff (gw : GatewayApp urlsplit) (name value method : String) (url : Uri)
    (body : Bytes) (lookup : String → Option String) :
    (gw.upstreamRequest [(name, value)] method url body
        (selectedHeaders lookup forwardedRequestHeaders)).headers.values name = [value] ↔
      ∀ n ∈ forwardedRequestHeaders, sameName n name = true →
        ∀ sent, lookup n = some sent → sent = value := by
  have hcredential : (gw.clientDefaults.update [(name, value)]).values name = [value] := by
    have hself : Headers.values [(name, value)] name = [value] := by
      simp [Headers.values, sameName]
    rw [Headers.values_update, hself, if_neg (List.cons_ne_nil _ _)]
  have hmem : ∀ n ∈ forwardedRequestHeaders, sameName n name = true →
      n ∈ forwardedRequestHeaders.filter (sameName · name) :=
    fun n hn hsame => List.mem_filter.mpr ⟨hn, hsame⟩
  unfold GatewayApp.upstreamRequest
  dsimp only
  rw [Headers.values_update, hcredential, values_selectedHeaders]
  have hnodup : (forwardedRequestHeaders.map lowerName).Nodup := by decide
  rcases filter_lowerName hnodup name with
    hnone | ⟨n, hn, hsame, hfilter⟩
  · rw [hnone]
    refine ⟨fun _ n hn hsame => ?_, fun _ => rfl⟩
    have hin := hmem n hn hsame
    rw [hnone] at hin
    cases hin
  · have hunique : ∀ n' ∈ forwardedRequestHeaders, sameName n' name = true → n' = n := by
      intro n' hn' hsame'
      have hin := hmem n' hn' hsame'
      rw [hfilter] at hin
      exact List.mem_singleton.mp hin
    rw [hfilter]
    cases hvalue : lookup n with
    | none =>
        rw [List.filterMap_cons_none hvalue]
        refine ⟨fun _ n' hn' hsame' sent hsent => ?_, fun _ => rfl⟩
        rw [hunique n' hn' hsame', hvalue] at hsent
        cases hsent
    | some sent =>
        rw [List.filterMap_cons_some hvalue, if_neg (List.cons_ne_nil _ _)]
        constructor
        · intro heq n' hn' hsame' sent' hsent'
          rw [hunique n' hn' hsame', hvalue] at hsent'
          cases hsent'
          exact (List.cons.inj heq).1
        · intro h
          rw [h n hn hsame sent hvalue]
          rfl

/-- What the secret-backed provider supplies. -/
theorem secretBackedHeaders_eq {settings : UpstreamCredentialSettings}
    {getSecret : String → Except PyExc String} {secret : String} {credential : Headers}
    (hsecret : getSecret (settings.secretRef.getD "") = .ok secret)
    (h : secretBackedHeaders settings getSecret = some credential) :
    credential = [(settings.headerName.getD "", settings.valuePrefix ++ secret)] := by
  unfold secretBackedHeaders at h
  rw [hsecret] at h
  dsimp only at h
  split at h
  · cases h
  split at h
  · exact (Option.some.inj h).symm
  · cases h

theorem GatewayApp.mem_sentFor {gw : GatewayApp urlsplit} {request : CallerRequest}
    {up : UpstreamRequest} (h : up ∈ gw.sentFor request) :
    ∃ context credential method url body, gw.headersFor context = some credential ∧
      up = gw.upstreamRequest credential method url body
        (selectedHeaders request.headers.get? forwardedRequestHeaders) := by
  cases request with
  | jsonrpc headers body =>
      obtain ⟨credential, url, hcredential, -, hup⟩ := GatewayApp.mem_sent_proxyJsonrpc h
      exact ⟨_, credential, _, url, body, hcredential, hup⟩
  | rest request =>
      obtain ⟨_, _, credential, -, -, hcredential, hup⟩ := GatewayApp.mem_sent_proxyRest h
      exact ⟨_, credential, _, _, _, hcredential, hup⟩

/-- The forwarded headers that are not reserved. -/
theorem forwarded_of_valid {settings : UpstreamCredentialSettings}
    (hmode : settings.mode = .headerMode) {name : String} (hname : name ∈ forwardedRequestHeaders)
    (hsame : sameName name (settings.headerName.getD "") = true) :
    name ∈ ["accept", "last-event-id"] := by
  cases hheader : settings.headerName with
  | none =>
      have hmissing := settings.validMode
      unfold validateModeFields missing at hmissing
      rw [hheader, hmode] at hmissing
      cases hmissing
  | some value =>
      have hvalid := settings.validName
      rw [hheader] at hvalid hsame
      unfold validateHeaderName at hvalid
      dsimp only at hvalid
      split at hvalid
      · cases hvalid
      split at hvalid
      · cases hvalid
      rename_i hreserved
      have hfree : ∀ reserved ∈ reservedUpstreamHeaders, lowerName value ≠ lowerName reserved := by
        intro reserved hmem heq
        exact hreserved (List.any_eq_true.mpr ⟨reserved, hmem, sameName_iff.mpr heq⟩)
      have hnot : name ∉ reservedUpstreamHeaders :=
        fun hmem => hfree name hmem (sameName_iff.mp hsame).symm
      have hrest : ∀ n ∈ forwardedRequestHeaders, n ∉ reservedUpstreamHeaders →
          n ∈ ["accept", "last-event-id"] := by decide
      exact hrest name hname hnot

/-- In every upstream request the configured header carries the credential, and nothing
of the caller beyond what is forwarded is in it, just when the caller does not send the
configured header as one of the two forwarded headers whose names are not reserved. -/
theorem keepsAuthority_iff (gw : GatewayApp urlsplit) (settings : UpstreamCredentialSettings)
    (getSecret : String → Except PyExc String) (secret : String)
    (hholds : gw.Holds settings getSecret)
    (hsecret : getSecret (settings.secretRef.getD "") = .ok secret) (request : CallerRequest)
    (up : UpstreamRequest) (h : up ∈ gw.sentFor request) :
    gw.KeepsAuthority settings secret request up ↔
      ∀ name ∈ ["accept", "last-event-id"],
        sameName name (settings.headerName.getD "") = true →
          ∀ value, request.headers.get? name = some value →
            value = settings.valuePrefix ++ secret := by
  obtain ⟨context, credential, method, url, body, hcredential, rfl⟩ := GatewayApp.mem_sentFor h
  rw [hholds.headers] at hcredential
  obtain rfl := secretBackedHeaders_eq hsecret hcredential
  have hiff := values_upstreamRequest_iff gw (settings.headerName.getD "")
    (settings.valuePrefix ++ secret) method url body request.headers.get?
  constructor
  · intro hkeeps name hname hsame value hvalue
    have hforwarded : ∀ n ∈ ["accept", "last-event-id"], n ∈ forwardedRequestHeaders := by decide
    exact hiff.mp hkeeps.credential name (hforwarded name hname) hsame value hvalue
  · intro hcaller
    refine ⟨hiff.mpr fun name hname hsame value hvalue => ?_, fun headers hagree => ?_⟩
    · exact hcaller name (forwarded_of_valid hholds.mode hname hsame) hsame value hvalue
    · exact sentFor_withHeaders gw request hagree

/-- A credential under `Authorization`. -/
def bearer : UpstreamCredentialSettings :=
  { mode := .headerMode, headerName := some "Authorization", secretRef := some "upstream-token"
    valuePrefix := "Bearer ", validName := by rfl, validMode := by rfl }

def acceptCredential : UpstreamCredentialSettings :=
  { mode := .headerMode, headerName := some "Accept", secretRef := some "upstream-token"
    validName := by rfl, validMode := by rfl }

def secretStore : String → Except PyExc String := fun _ => .ok "s3cret"

def credentialGateway (settings : UpstreamCredentialSettings) : GatewayApp splitAgentExample :=
  { agentExample rootSettings with headersFor := fun _ => secretBackedHeaders settings secretStore }

/-- A caller that lists the tasks, with an `Accept` header. -/
def acceptingCaller : CallerRequest :=
  .rest { getTasks "/a2a/rest/tasks".toList "tasks".toList with
          headers := [("a2a-version", "1.0"), ("accept", "text/html")] }

/-- A bearer token goes along whatever the caller accepts. -/
theorem bearer_keepsAuthority :
    ∃ up ∈ (credentialGateway bearer).sentFor acceptingCaller,
      (credentialGateway bearer).KeepsAuthority bearer "s3cret" acceptingCaller up :=
  ⟨_, List.mem_singleton.mpr rfl,
    (keepsAuthority_iff (credentialGateway bearer) bearer secretStore "s3cret"
      ⟨rfl, fun _ => rfl⟩ rfl acceptingCaller _ (List.mem_singleton.mpr rfl)).mpr (by decide)⟩

/-- A credential under `Accept` is replaced by what the caller sends. -/
theorem accept_replaces_credential :
    ∃ up ∈ (credentialGateway acceptCredential).sentFor acceptingCaller,
      ¬(credentialGateway acceptCredential).KeepsAuthority acceptCredential "s3cret"
        acceptingCaller up := by
  refine ⟨_, List.mem_singleton.mpr rfl, fun h => ?_⟩
  have hvalues := h.credential
  exact absurd hvalues (by decide)

end Kin.Gateway
