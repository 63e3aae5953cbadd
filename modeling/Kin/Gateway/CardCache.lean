import Kin.Gateway.PrivateReferences
import Kin.Lib.TtlCache

/-!
`public_card` of `kin_gateway/agent_card.py`: concurrent requests for the public card share one
snapshot for as long as it lasts, and one of them at a time refreshes it. Readings of the clock
come with an operation, and adding `cache_ttl_seconds` to one is a parameter.
-/

namespace Kin.Gateway

open Kin.Py Kin.Lib

variable {urlsplit : List Char → Except PyExc SplitResult} {τ : Type} [LinearOrder τ]

/-- What happens to the calls of `public_card`. A refresh comes with the mirror as it is then: its
resolver, its credential provider and its upstream may answer differently each time. -/
inductive CardOp (urlsplit : List Char → Except PyExc SplitResult) (τ : Type)
  | call (n : Nat) (now later : τ)
  | resume (now : τ)
  | refreshed (n : Nat) (mirror : AgentCardMirror urlsplit)
  | cancelled (n : Nat)

def CardOp.cacheOp : CardOp urlsplit τ → CacheOp MirroredAgentCard CardExc τ
  | .call n now later => .call n now later
  | .resume now => .resume now
  | .refreshed n mirror => .finish n mirror.refresh.2
  | .cancelled n => .cancel n (.other .baseException)

/-- `_cached`, `_cache_expires_at` and `_cache_lock`, with the calls that share them. -/
abbrev CardCache (τ : Type) := TtlCache MirroredAgentCard CardExc τ

def CardCache.step (expiry : τ → τ) (s : CardCache τ) (op : CardOp urlsplit τ) : CardCache τ :=
  TtlCache.step expiry s op.cacheOp

/-- The clock never goes back, and every refresh has the settings of the gateway and its hash. -/
def CardCache.Proper (settings : MirrorSettings urlsplit) (documentHash : Json → String)
    (s : CardCache τ) (op : CardOp urlsplit τ) : Prop :=
  TtlCache.InTime s op.cacheOp ∧ ∀ n mirror, op = .refreshed n mirror →
    mirror.settings = settings ∧ mirror.documentHash = documentHash

/-- The route of `AGENT_CARD_PATH`. -/
inductive CardAnswer
  | document (document : Json) (eTag upstreamSha256 cacheControl : String)
  | detail (status : Nat) (text : String)
  | raised (exc : GatewayExc)

def eTag (sha256 : String) : String := "\"sha256-" ++ sha256 ++ "\""

/-- `mirrored_agent_card`, with the text of `int(cache_ttl_seconds)`. -/
def mirroredAgentCard (maxAge : String) : Except CardExc MirroredAgentCard → CardAnswer
  | .ok snapshot =>
      .document snapshot.document (eTag snapshot.publicSha256) snapshot.sourceSha256
        ("public, max-age=" ++ maxAge)
  | .error (.agentCardMirrorError _) =>
      .detail 502 "Upstream Agent Card is unavailable or invalid"
  | .error (.other exc) => .raised exc

namespace CardCache

variable {expiry : τ → τ} {settings : MirrorSettings urlsplit} {documentHash : Json → String}
  {ops : List (CardOp urlsplit τ)} {s : CardCache τ}

/-- A snapshot that a refresh among the operations returned. -/
def Refreshed (ops : List (CardOp urlsplit τ)) (settings : MirrorSettings urlsplit)
    (documentHash : Json → String) (snapshot : MirroredAgentCard) : Prop :=
  ∃ n mirror, .refreshed n mirror ∈ ops ∧ mirror.settings = settings ∧
    mirror.documentHash = documentHash ∧ mirror.refresh.2 = .ok snapshot

/-- A snapshot is hashed as it is shown. -/
theorem publicSha256_of_refresh {mirror : AgentCardMirror urlsplit} {snapshot : MirroredAgentCard}
    (h : mirror.refresh.2 = .ok snapshot) :
    snapshot.publicSha256 = mirror.documentHash snapshot.document := by
  unfold AgentCardMirror.refresh at h
  split at h
  · cases h
  unfold AgentCardMirror.publish at h
  dsimp only at h
  split at h
  · cases h
  split at h
  · cases h
  cases h
  rfl

structure Genuine (expiry : τ → τ) (ops : List (CardOp urlsplit τ))
    (settings : MirrorSettings urlsplit) (documentHash : Json → String) (s : CardCache τ) :
    Prop where
  sound : TtlCache.Sound expiry s
  refreshed : ∀ c ∈ s.computed, Refreshed ops settings documentHash c.2

theorem Genuine.step (h : Genuine expiry ops settings documentHash s) {op : CardOp urlsplit τ}
    (hop : op ∈ ops) (hproper : Proper settings documentHash s op) :
    Genuine expiry ops settings documentHash (s.step expiry op) := by
  refine ⟨h.sound.step hproper.1, fun c hc => ?_⟩
  rcases TtlCache.mem_computed_step hc with hold | ⟨n, hfinish⟩
  · exact h.refreshed c hold
  · cases op with
    | refreshed n' mirror =>
        injection hfinish with hn houtcome
        obtain ⟨hsettings, hhash⟩ := hproper.2 n' mirror rfl
        exact ⟨n', mirror, hop, hsettings, hhash, houtcome⟩
    | call n' now later => cases hfinish
    | resume now => cases hfinish
    | cancelled n' => cases hfinish

theorem genuine_of_run (zero : τ)
    (h : Along (step expiry) (Proper settings documentHash) (TtlCache.empty zero) ops) :
    Genuine expiry ops settings documentHash (run (step expiry) (TtlCache.empty zero) ops) := by
  have hmem : Along (step expiry) (fun _ op => op ∈ ops) (TtlCache.empty zero) ops :=
    along_of_mem _ fun _ hop => hop
  refine run_of_along (I := Genuine expiry ops settings documentHash)
    (fun _ _ hs hstep => hs.step hstep.1 hstep.2) ?_ (hmem.and h)
  refine ⟨TtlCache.sound_empty zero, fun c hc => ?_⟩
  cases hc

end CardCache

/-- Over any requests for the card, in any order of their steps: one of them at most refreshes it,
and the lock is free when none does; two refreshes that succeed are apart by the time a snapshot
lasts, and so is any refresh from one that succeeded; a request gets what a refresh returned, its
own or one whose time had not run out; and its answer is tagged with the hash of its document. -/
theorem public_card_of_run (expiry : τ → τ) (zero : τ) (settings : MirrorSettings urlsplit)
    (documentHash : Json → String) (maxAge : String) (ops : List (CardOp urlsplit τ))
    (h : Along (CardCache.step expiry) (CardCache.Proper settings documentHash)
      (TtlCache.empty zero) ops) :
    let s := run (CardCache.step expiry) (TtlCache.empty zero) ops
    (∀ m n start start', s.calls m = .computing start → s.calls n = .computing start' → m = n) ∧
      (s.holder = none ↔ ∀ n start, s.calls n ≠ .computing start) ∧
      s.computed.Pairwise (fun c d => expiry c.1 ≤ d.1) ∧
      (∀ n start, s.calls n = .computing start → ∀ c ∈ s.computed, expiry c.1 ≤ start) ∧
      (∀ n snapshot now, s.calls n = .returned (.ok snapshot) now →
        CardCache.Refreshed ops settings documentHash snapshot ∧
          TtlCache.Current expiry s snapshot now) ∧
      ∀ n result now document tag upstreamSha256 cacheControl, s.calls n = .returned result now →
        mirroredAgentCard maxAge result = .document document tag upstreamSha256 cacheControl →
          tag = eTag (documentHash document) := by
  intro s
  obtain ⟨hsound, hrefreshed⟩ := CardCache.genuine_of_run zero h
  refine ⟨fun m n start start' hm hn => ?_, hsound.holder_eq_none, ?_, ?_, ?_, ?_⟩
  · have hholder := (hsound.holder m).mpr ⟨start, hm⟩
    rw [(hsound.holder n).mpr ⟨start', hn⟩] at hholder
    exact (Option.some.inj hholder).symm
  · exact hsound.apart.imp fun happart => happart.2
  · exact fun n start hn c hc => ((hsound.computing n start hn).2 c hc).2
  · intro n snapshot now hn
    obtain ⟨start, hmem, htimes⟩ := hsound.returned n snapshot now hn
    exact ⟨hrefreshed _ hmem, start, hmem, htimes⟩
  · intro n result now document tag upstreamSha256 cacheControl hn hanswer
    unfold mirroredAgentCard at hanswer
    split at hanswer
    · rename_i snapshot
      obtain ⟨start, hmem, -⟩ := hsound.returned n snapshot now hn
      obtain ⟨_, mirror, -, -, hhash, hrefresh⟩ := hrefreshed _ hmem
      cases hanswer
      rw [CardCache.publicSha256_of_refresh hrefresh, hhash]
    · cases hanswer
    · cases hanswer

namespace Sample

/-- A mirror whose upstream shows a card. -/
def plainMirror : AgentCardMirror splitAgentExample :=
  { mirrorExample mirrorSettings with parseDict := fun _ => .ok talkativeCard }

def plainSnapshot : MirroredAgentCard := ⟨.obj [], "", ""⟩

/-- The second request comes while the first one refreshes. -/
def twoCalls : List (CardOp splitAgentExample Nat) :=
  [.call 0 0 0, .call 1 10 10, .refreshed 0 plainMirror, .resume 20]

end Sample

open Sample in
theorem public_card_of_two_calls :
    let s := run (CardCache.step (· + 300)) (TtlCache.empty 0) twoCalls
    s.computed.length = 1 ∧ ∃ snapshot, s.calls 1 = .returned (.ok snapshot) 20 ∧
      CardCache.Refreshed twoCalls mirrorSettings plainMirror.documentHash snapshot ∧
        TtlCache.Current (· + 300) s snapshot 20 := by
  have hproper : Along (CardCache.step (· + 300))
      (CardCache.Proper mirrorSettings plainMirror.documentHash) (TtlCache.empty 0) twoCalls := by
    refine ⟨⟨⟨le_rfl, le_rfl⟩, ?_⟩, ⟨⟨Nat.zero_le 10, le_rfl⟩, ?_⟩, ⟨trivial, ?_⟩,
      ⟨show 10 ≤ 20 by decide, ?_⟩, trivial⟩
    · intro n mirror hop
      cases hop
    · intro n mirror hop
      cases hop
    · intro n mirror hop
      cases hop
      exact ⟨rfl, rfl⟩
    · intro n mirror hop
      cases hop
  have hcall : (run (CardCache.step (· + 300)) (TtlCache.empty 0) twoCalls).calls 1 =
      .returned (.ok plainSnapshot) 20 := rfl
  obtain ⟨-, -, -, -, hreturned, -⟩ := public_card_of_run (· + 300) 0 mirrorSettings
    plainMirror.documentHash "300" twoCalls hproper
  exact ⟨rfl, plainSnapshot, hcall, hreturned 1 plainSnapshot 20 hcall⟩

end Kin.Gateway
