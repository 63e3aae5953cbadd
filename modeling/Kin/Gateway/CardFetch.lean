import Kin.Gateway.AgentCard

/-!
Where the fetch of the Agent Card goes. A round of the loop validates its URL, sends at most one
request and stops or goes on to a redirect of the same origin; what holds of the requests of a
round holds of those of the whole fetch, by induction over the rounds that are left.
-/

namespace Kin.Gateway

open Kin.Py

variable {urlsplit : List Char → Except PyExc SplitResult}

namespace AgentCardMirror

variable (mirror : AgentCardMirror urlsplit)

/-! ### A round of the loop -/

structure Sends (hop : Nat) (logicalUrl : List Char) (request : CardRequest) : Prop where
  logical : request.logicalUrl = logicalUrl
  validated : ∃ target, mirror.validatedTarget hop logicalUrl = .ok target ∧
    request.url = target.url ∧ request.headers = mergeHeaders request.credential target.headers ∧
      request.sniHostname = target.sniHostname
  credential : mirror.headersFor hop { method := "GET", url := logicalUrl } = .ok request.credential

/-- What a round does, with `rounds` left after it. -/
inductive Round (target : Origin) (rounds hop : Nat) (logicalUrl : List Char)
    (known : List String) : List CardRequest × Except CardExc (Json × List String) → Prop
  | unsent (exc) : Round target rounds hop logicalUrl known ([], .error exc)
  | failed {request} (sends : mirror.Sends hop logicalUrl request) (exc) :
      Round target rounds hop logicalUrl known ([request], .error exc)
  | redirected {request redirected} (sends : mirror.Sends hop logicalUrl request)
      (before : hop < mirror.settings.maxRedirects)
      (sameOrigin : mirror.origin redirected = .ok target) :
      Round target rounds hop logicalUrl known
        (request :: (mirror.fetchFrom target rounds (hop + 1) redirected
            (known ++ credentialValues request.credential)).1,
          (mirror.fetchFrom target rounds (hop + 1) redirected
            (known ++ credentialValues request.credential)).2)
  | fetched {request response body document} (sends : mirror.Sends hop logicalUrl request)
      (answered : mirror.stream hop request = .ok response)
      (read : mirror.boundedBody response = .ok body) (loaded : mirror.loads body = .ok document) :
      Round target rounds hop logicalUrl known
        ([request], .ok (document, known ++ credentialValues request.credential))

theorem round_fetchFrom (target : Origin) (rounds hop : Nat) (logicalUrl : List Char)
    (known : List String) :
    mirror.Round target rounds hop logicalUrl known
      (mirror.fetchFrom target (rounds + 1) hop logicalUrl known) := by
  unfold fetchFrom
  split
  · exact .unsent _
  rename_i validated hvalidated
  split
  · exact .unsent _
  rename_i credential hcredential
  have hsends : mirror.Sends hop logicalUrl
      { logicalUrl, credential, url := validated.url
        headers := mergeHeaders credential validated.headers
        sniHostname := validated.sniHostname } :=
    { logical := rfl, validated := ⟨validated, hvalidated, rfl, rfl, rfl⟩
      credential := hcredential }
  dsimp only
  split
  · exact .failed hsends _
  rename_i response hanswered
  split
  · split
    · exact .failed hsends _
    · exact .failed hsends _
    split
    · exact .failed hsends _
    rename_i hhop
    split
    · exact .failed hsends _
    split
    · exact .failed hsends _
    rename_i next hnext
    split
    · exact .failed hsends _
    rename_i horigin
    rw [ne_eq, not_not] at horigin
    exact .redirected hsends (not_le.mp hhop) (horigin ▸ hnext)
  split
  · exact .failed hsends _
  split
  · exact .failed hsends _
  rename_i body hbody
  split
  · exact .failed hsends _
  rename_i document hdocument
  exact .fetched hsends hanswered hbody hdocument

theorem length_fetchFrom (target : Origin) (rounds hop : Nat) (logicalUrl : List Char)
    (known : List String) :
    (mirror.fetchFrom target rounds hop logicalUrl known).1.length ≤ rounds := by
  induction rounds generalizing hop logicalUrl known with
  | zero => exact Nat.le_refl 0
  | succ rounds ih =>
      have hround := mirror.round_fetchFrom target rounds hop logicalUrl known
      generalize mirror.fetchFrom target (rounds + 1) hop logicalUrl known = fetched at hround
      cases hround with
      | unsent exc => exact Nat.zero_le _
      | failed _ exc => exact Nat.succ_le_succ (Nat.zero_le _)
      | redirected _ _ _ => exact Nat.succ_le_succ (ih ..)
      | fetched _ _ _ _ => exact Nat.succ_le_succ (Nat.zero_le _)

theorem sends_of_fetchFrom {target : Origin} {rounds hop : Nat} {logicalUrl : List Char}
    {known : List String} (horigin : mirror.origin logicalUrl = .ok target) {i : Nat}
    {request : CardRequest}
    (h : (mirror.fetchFrom target rounds hop logicalUrl known).1[i]? = some request) :
    mirror.origin request.logicalUrl = .ok target ∧
      mirror.Sends (hop + i) request.logicalUrl request := by
  induction rounds generalizing hop logicalUrl known i with
  | zero => cases h
  | succ rounds ih =>
      have hround := mirror.round_fetchFrom target rounds hop logicalUrl known
      generalize mirror.fetchFrom target (rounds + 1) hop logicalUrl known = fetched at hround h
      have hfirst : ∀ {first : CardRequest}, mirror.Sends hop logicalUrl first →
          mirror.origin first.logicalUrl = .ok target ∧
            mirror.Sends (hop + 0) first.logicalUrl first := by
        intro first hsends
        rw [hsends.logical]
        exact ⟨horigin, hsends⟩
      cases hround with
      | unsent exc => cases h
      | failed hsends exc =>
          cases i with
          | zero => cases h; exact hfirst hsends
          | succ i => cases h
      | redirected hsends _ hsame =>
          cases i with
          | zero => cases h; exact hfirst hsends
          | succ i =>
              rw [show hop + (i + 1) = hop + 1 + i by omega]
              exact ih hsame h
      | fetched hsends _ _ _ =>
          cases i with
          | zero => cases h; exact hfirst hsends
          | succ i => cases h

/-- The document was read from the answer to a request of the run, and the credential values
are those of all its requests. -/
theorem fetched_of_fetchFrom {target : Origin} {rounds hop : Nat} {logicalUrl : List Char}
    {known known' : List String} {document : Json}
    (h : (mirror.fetchFrom target rounds hop logicalUrl known).2 = .ok (document, known')) :
    known' = known ++ (mirror.fetchFrom target rounds hop logicalUrl known).1.flatMap
        (fun request => credentialValues request.credential) ∧
      ∃ i request response body,
        (mirror.fetchFrom target rounds hop logicalUrl known).1[i]? = some request ∧
          mirror.stream (hop + i) request = .ok response ∧
            mirror.boundedBody response = .ok body ∧ mirror.loads body = .ok document := by
  induction rounds generalizing hop logicalUrl known with
  | zero => cases h
  | succ rounds ih =>
      have hround := mirror.round_fetchFrom target rounds hop logicalUrl known
      generalize mirror.fetchFrom target (rounds + 1) hop logicalUrl known = fetched at hround h ⊢
      cases hround with
      | unsent exc => cases h
      | failed _ exc => cases h
      | redirected hsends _ _ =>
          obtain ⟨hknown, i, request, response, body, hi, hstream, hread⟩ := ih h
          refine ⟨?_, i + 1, request, response, body, hi, ?_, hread⟩
          · rw [hknown, List.flatMap_cons, List.append_assoc]
          · rw [show hop + (i + 1) = hop + 1 + i by omega]
            exact hstream
      | fetched hsends hanswered hread hloaded =>
          cases h
          refine ⟨?_, 0, _, _, _, rfl, hanswered, hread, hloaded⟩
          rw [List.flatMap_cons, List.flatMap_nil, List.append_nil]

/-! ### Bodies -/

theorem boundedChunks_ok {limit : Nat} {body body' : Bytes}
    {chunks : List (Except GatewayExc Bytes)} (hbody : body.length ≤ limit)
    (h : boundedChunks limit body chunks = .ok body') :
    ∃ parts : List Bytes, chunks = parts.map .ok ∧ body' = body ++ parts.flatten ∧ body'.length ≤ limit := by
  induction chunks generalizing body with
  | nil =>
      cases h
      exact ⟨[], rfl, (List.append_nil _).symm, hbody⟩
  | cons chunk chunks ih =>
      cases chunk with
      | error exc => cases h
      | ok chunk =>
          rw [boundedChunks] at h
          split at h
          · cases h
          rename_i hfits
          obtain ⟨parts, rfl, hwhole, hlength⟩ := ih (not_lt.mp hfits) h
          refine ⟨chunk :: parts, rfl, ?_, hlength⟩
          rw [hwhole, List.flatten_cons, List.append_assoc]

theorem boundedBody_ok {response : CardResponse} {body : Bytes}
    (h : mirror.boundedBody response = .ok body) :
    ∃ parts : List Bytes, response.chunks = parts.map .ok ∧ body = parts.flatten ∧
      body.length ≤ mirror.settings.maxResponseBytes := by
  unfold boundedBody at h
  dsimp only at h
  split at h
  · exact boundedChunks_ok (Nat.zero_le _) h
  split at h
  · cases h
  split at h
  · cases h
  · exact boundedChunks_ok (Nat.zero_le _) h

/-! ### Targets -/

/-- `copy_with(host=...)` of `httpx` leaves the rest of the URL as it is. -/
def PinsHost : Prop :=
  ∀ url text pinned, mirror.copyWithHost url text = .ok pinned →
    ∀ o, mirror.origin url = .ok o → mirror.origin pinned = .ok { o with host := mirror.lower text }

def Answered (hop : Nat) (host : String) (port : Nat) (address : Address) : Prop :=
  ∃ answers : List Address, mirror.resolve hop host port = .ok answers ∧ address ∈ answers

/-- The addresses of a host at a hop: its own, where it is the text of one, and else what the
resolver answers. -/
def Designated (hop : Nat) (host : String) (port : Nat) (address : Address) : Prop :=
  mirror.ipAddress host = some address ∨
    mirror.ipAddress host = none ∧ mirror.Answered hop host port address

theorem designated_of_mem_addressesOf {hop : Nat} {host : String} {port : Nat}
    {addresses : List Address} (h : mirror.addressesOf hop host port = .ok addresses)
    {address : Address} (hmem : address ∈ addresses) :
    mirror.Designated hop host port address := by
  unfold addressesOf at h
  split at h
  · rename_i literal hliteral
    cases h
    left
    rw [hliteral, List.mem_singleton.mp hmem]
  rename_i hname
  split at h
  · rename_i hanswers
    cases h
    exact .inr ⟨hname, _, hanswers, hmem⟩
  · cases h
  · cases h
  · cases h

/-- What the origin of a URL says about its parts. -/
theorem origin_ok {url : List Char} {o : Origin} (h : mirror.origin url = .ok o) :
    ∃ parsed host port, urlsplit url = .ok parsed ∧ parsed.hostname = some host ∧
      parsed.port = .ok port ∧ o.scheme = parsed.scheme ∧ o.host = mirror.lower host ∧
        o.port = portOr (if parsed.scheme = "https" then 443 else 80) port := by
  unfold origin at h
  split at h
  · cases h
  rename_i parsed hparsed
  split at h
  · cases h
  · cases h
  rename_i host _ hhost
  split at h
  · cases h
  split at h
  · cases h
  split at h
  · cases h
  rename_i port hport
  cases h
  exact ⟨parsed, host, port, hparsed, hhost, hport, rfl, rfl, rfl⟩

/-- A target outside of the trusted hosts is pinned to a global address. -/
theorem validatedTarget_ok {hop : Nat} {url : List Char} {parsed : SplitResult} {host : String}
    {port : Option Nat} {target : Target} (hparsed : urlsplit url = .ok parsed)
    (hhost : parsed.hostname = some host) (hport : parsed.port = .ok port)
    (h : mirror.validatedTarget hop url = .ok target) :
    mirror.trusts host = true ∧ target.url = url ∨
      mirror.trusts host = false ∧ parsed.scheme = "https" ∧ target.sniHostname = some host ∧
        ∃ address, mirror.Designated hop host (portOr 443 port) address ∧
          address.isGlobal = true ∧ mirror.copyWithHost url address.text = .ok target.url := by
  unfold validatedTarget at h
  rw [hparsed] at h
  dsimp only at h
  rw [hhost, Option.getD_some] at h
  split at h
  · rename_i htrusted
    cases h
    exact .inl ⟨htrusted, rfl⟩
  rename_i huntrusted
  rw [Bool.not_eq_true] at huntrusted
  split at h
  · cases h
  rename_i hscheme
  rw [ne_eq, not_not] at hscheme
  rw [hport] at h
  dsimp only at h
  split at h
  · cases h
  · cases h
  rename_i first others haddresses
  split at h
  · cases h
  rename_i hglobal
  split at h
  · cases h
  rename_i pinned hpinned
  cases h
  have hfirst : first.isGlobal = true := by
    rw [List.any_cons, Bool.or_eq_true, not_or] at hglobal
    simpa using hglobal.1
  exact .inr ⟨huntrusted, hscheme, rfl, first,
    mirror.designated_of_mem_addressesOf haddresses List.mem_cons_self, hfirst, hpinned⟩

/-! ### The fetch -/

/-- The request of a hop goes to the origin: over its own URL for a trusted host, and else over
HTTPS to a global address that `Reaches` allows, under the name of the host. -/
structure GoesTo (Reaches : Nat → String → Nat → Address → Prop) (hop : Nat)
    (configured : Origin) (request : CardRequest) : Prop where
  logical : mirror.origin request.logicalUrl = .ok configured
  trusted : configured.host ∈ mirror.settings.trustedPrivateHosts.map mirror.lower →
    mirror.origin request.url = .ok configured
  untrusted : configured.host ∉ mirror.settings.trustedPrivateHosts.map mirror.lower →
    configured.scheme = "https" ∧ ∃ host address, mirror.lower host = configured.host ∧
      request.sniHostname = some host ∧ Reaches hop host configured.port address ∧
        address.isGlobal = true ∧
          mirror.origin request.url = .ok { configured with host := mirror.lower address.text }

theorem goesTo_of_sends (hpins : mirror.PinsHost) {hop : Nat} {configured : Origin}
    {request : CardRequest} (hlogical : mirror.origin request.logicalUrl = .ok configured)
    (hsends : mirror.Sends hop request.logicalUrl request) :
    mirror.GoesTo mirror.Designated hop configured request := by
  obtain ⟨parsed, host, port, hparsed, hhost, hport, hscheme, hname, hnumber⟩ :=
    mirror.origin_ok hlogical
  obtain ⟨target, hvalidated, hurl, -, hsni⟩ := hsends.validated
  have htrusts : mirror.trusts host = true ↔
      configured.host ∈ mirror.settings.trustedPrivateHosts.map mirror.lower := by
    rw [trusts, hname, List.contains_iff_mem]
  rcases mirror.validatedTarget_ok hparsed hhost hport hvalidated with
    ⟨htrusted, hsame⟩ | ⟨huntrusted, hhttps, hsni', address, hreaches, hglobal, hpinned⟩
  · refine ⟨hlogical, ?_, fun hnot => absurd (htrusts.mp htrusted) hnot⟩
    intro _
    rw [hurl, hsame]
    exact hlogical
  · refine ⟨hlogical, fun hmem => absurd (htrusts.mpr hmem) (by rw [huntrusted]; simp), ?_⟩
    intro _
    rw [hhttps, if_pos rfl] at hnumber
    refine ⟨hscheme.trans hhttps, host, address, hname.symm, hsni.trans hsni', ?_, hglobal, ?_⟩
    · rw [hnumber]
      exact hreaches
    · rw [hurl]
      exact hpins _ _ _ hpinned _ hlogical

/-- What the fetch of a card is held to: the number of its requests, where each of them goes, and
the size of the body that a document is read from. -/
structure Unsteered (Reaches : Nat → String → Nat → Address → Prop) (logicalUrl : List Char) :
    Prop where
  requests : (mirror.fetchDocument logicalUrl).1.length ≤ mirror.settings.maxRedirects + 1
  goesTo : ∀ hop request, (mirror.fetchDocument logicalUrl).1[hop]? = some request →
    ∃ configured, mirror.origin logicalUrl = .ok configured ∧
      mirror.GoesTo Reaches hop configured request
  bounded : ∀ document known, (mirror.fetchDocument logicalUrl).2 = .ok (document, known) →
    ∃ hop request response, ∃ body : List Bytes, (mirror.fetchDocument logicalUrl).1[hop]? = some request ∧
      mirror.stream hop request = .ok response ∧ response.chunks = body.map .ok ∧
        mirror.loads body.flatten = .ok document ∧
          body.flatten.length ≤ mirror.settings.maxResponseBytes

/-- Whatever is answered, the fetch keeps to the configured origin and to its bounds. -/
theorem fetch_unsteered (hpins : mirror.PinsHost) (logicalUrl : List Char) :
    mirror.Unsteered mirror.Designated logicalUrl := by
  cases horigin : mirror.origin logicalUrl with
  | error exc =>
      have hfetched : mirror.fetchDocument logicalUrl = ([], .error exc) := by
        unfold fetchDocument
        rw [horigin]
      constructor <;> rw [hfetched]
      · exact Nat.zero_le _
      · intro hop request h
        cases h
      · intro document known h
        cases h
  | ok configured =>
      have hfetched : mirror.fetchDocument logicalUrl =
          mirror.fetchFrom configured (mirror.settings.maxRedirects + 1) 0 logicalUrl [] := by
        unfold fetchDocument
        rw [horigin]
      constructor <;> rw [hfetched]
      · exact mirror.length_fetchFrom ..
      · intro hop request h
        obtain ⟨hlogical, hsends⟩ := mirror.sends_of_fetchFrom horigin h
        rw [Nat.zero_add] at hsends
        exact ⟨configured, horigin, mirror.goesTo_of_sends hpins hlogical hsends⟩
      · intro document known h
        obtain ⟨-, hop, request, response, body, hrequest, hstream, hread, hloaded⟩ :=
          mirror.fetched_of_fetchFrom h
        obtain ⟨parts, hchunks, rfl, hlength⟩ := mirror.boundedBody_ok hread
        rw [Nat.zero_add] at hstream
        exact ⟨hop, request, response, parts, hrequest, hstream, hchunks, hloaded, hlength⟩

end AgentCardMirror

namespace Sample

def literalHost : String := "93.184.216.34"

/-- `urlsplit` on the URLs of that host. -/
def splitLiteral : List Char → Except PyExc SplitResult := fun _ =>
  .ok { scheme := "https", netloc := literalHost, hostname := some literalHost
        username := none, password := none, query := "", fragment := "", port := .ok none }

def literalSettings : MirrorSettings splitLiteral :=
  { upstreamBaseUrl := "https://93.184.216.34".toList
    accepted := ⟨"https://93.184.216.34".toList, by decide, rfl⟩
    publicBaseUrl := "https://gateway.example" }

def literalMirror : AgentCardMirror splitLiteral :=
  { mirrorExample literalSettings with
    ipAddress := fun host => if host = literalHost then some ⟨host, true⟩ else none
    copyWithHost := fun url host => if host = literalHost then .ok url else .error .valueError }

def literalUrl : List Char := "https://93.184.216.34/.well-known/agent-card.json".toList

theorem pinsHost_literalMirror : literalMirror.PinsHost := by
  intro url text pinned hpinned o horigin
  cases horigin
  unfold literalMirror at hpinned
  dsimp only at hpinned
  split at hpinned
  · rename_i htext
    subst htext
    rfl
  · cases hpinned

/-- The card of a host with a name, and where it has moved to. -/
def namedUrl : List Char := "https://agent.example/.well-known/agent-card.json".toList

def movedUrl : List Char := "https://agent.example/card.json".toList

def pinnedMovedUrl : List Char := "https://93.184.216.34/card.json".toList

/-- `urlsplit` on these URLs. -/
def splitNamed : List Char → Except PyExc SplitResult := fun url =>
  let host := if url = literalUrl ∨ url = pinnedMovedUrl then literalHost else "agent.example"
  .ok { scheme := "https", netloc := host, hostname := some host, username := none
        password := none, query := "", fragment := "", port := .ok none }

def namedSettings : MirrorSettings splitNamed :=
  { upstreamBaseUrl := "https://agent.example".toList
    accepted := ⟨"https://agent.example".toList, by decide, rfl⟩
    publicBaseUrl := "https://gateway.example" }

/-- A mirror whose upstream has a name, which resolves to an address, and moves its card. -/
def movedMirror : AgentCardMirror splitNamed :=
  { mirrorExample namedSettings with
    urljoin := fun _ _ => .ok movedUrl
    copyWithHost := fun url host =>
      if host = literalHost then .ok (if url = movedUrl then pinnedMovedUrl else literalUrl)
      else .error .valueError
    resolve := fun _ _ _ => .ok [⟨literalHost, true⟩]
    stream := fun hop _ =>
      if hop = 0 then
        .ok { status := 301, headers := [("location", "/card.json")], chunks := [] }
      else .ok { status := 200, headers := [], chunks := [.ok [123, 125]] } }

theorem origin_movedMirror (url : List Char) : movedMirror.origin url =
    .ok ⟨"https", if url = literalUrl ∨ url = pinnedMovedUrl then literalHost
      else "agent.example", 443⟩ := by
  unfold AgentCardMirror.origin splitNamed
  by_cases hpinned : url = literalUrl ∨ url = pinnedMovedUrl
  · simp only [if_pos hpinned]
    rfl
  · simp only [if_neg hpinned]
    rfl

theorem pinsHost_movedMirror : movedMirror.PinsHost := by
  intro url text pinned hpinned o horigin
  rw [origin_movedMirror] at horigin
  cases horigin
  unfold movedMirror at hpinned
  dsimp only at hpinned
  split at hpinned
  · rename_i htext
    subst htext
    cases hpinned
    split <;> rfl
  · cases hpinned

end Sample

/-- An address is contacted as it is, and a name at the address it resolves to, also where the
card has moved to. -/
theorem moved_unsteered :
    Sample.literalMirror.Unsteered Sample.literalMirror.Designated Sample.literalUrl ∧
      Sample.movedMirror.Unsteered Sample.movedMirror.Designated Sample.namedUrl ∧
      (Sample.movedMirror.fetchDocument Sample.namedUrl).1.map (·.url) =
        [Sample.literalUrl, Sample.pinnedMovedUrl] :=
  ⟨AgentCardMirror.fetch_unsteered _ Sample.pinsHost_literalMirror _,
    AgentCardMirror.fetch_unsteered _ Sample.pinsHost_movedMirror _, rfl⟩

/-- A host that is an address is not resolved. -/
theorem literal_not_resolved :
    ¬Sample.literalMirror.Unsteered Sample.literalMirror.Answered Sample.literalUrl := by
  intro h
  obtain ⟨configured, horigin, hgoes⟩ := h.goesTo 0 _ rfl
  cases horigin
  obtain ⟨-, host, address, -, -, ⟨answers, hanswers, -⟩, -⟩ :=
    hgoes.untrusted (List.not_mem_nil)
  cases hanswers

end Kin.Gateway
