import Kin.Gateway.App

/-!
What a caller of the JSON-RPC proxy gets, against a gateway that observes nothing. The
request is parsed and hashed before it is forwarded, and the session is completed before
the answer is returned, so that whatever raises there takes the place of the answer.
-/

namespace Kin.Gateway

open Kin.Py Kin.Lib

variable {urlsplit : List Char → Except PyExc SplitResult}

/-! ### A gateway that observes nothing -/

def Observation.streams (o : Observation) (body : Bytes) : Bool :=
  match o.loads body with
  | .ok (.obj fields) =>
      match Fields.getD fields "method" .null with
      | .str (.text name) => name == "SendStreamingMessage" || name == "SubscribeToTask"
      | _ => false
  | _ => false

def answer {β : Type} (respond : UpstreamResponse β → Response) :
    Except GatewayExc (UpstreamResponse β) → Result
  | .ok upstream => .response (respond upstream)
  | .error exc => if handledByProxy exc then .response unavailable else .raised exc

def respondBuffered (upstream : UpstreamResponse Bytes) : Response :=
  .buffered upstream.status (selectedHeaders upstream.headers.joined? forwardedResponseHeaders)
    upstream.body

def respondStreamed (upstream : UpstreamResponse UpstreamStream) : Response :=
  .streamed upstream.status (selectedHeaders upstream.headers.joined? forwardedResponseHeaders)
    upstream.body.chunks (.upstream upstream.body.ending)

section

variable (gw : GatewayApp urlsplit) (headers : Headers) (body : Bytes)

def GatewayApp.streamExchange :
    List UpstreamRequest × Except GatewayExc (UpstreamResponse UpstreamStream) :=
  gw.exchange gw.sendStream { method := "POST", url := gw.settings.upstreamBaseUrl ++ jsonrpcPath }
    (Uri.parse (gw.settings.upstreamBaseUrl ++ jsonrpcPath)) body
    (selectedHeaders headers.get? forwardedRequestHeaders)

def GatewayApp.bufferedExchange :
    List UpstreamRequest × Except GatewayExc (UpstreamResponse Bytes) :=
  gw.exchange gw.send { method := "POST", url := gw.settings.upstreamBaseUrl ++ jsonrpcPath }
    (mergeUrl gw.settings.upstreamBaseUrl jsonrpcPath) body
    (selectedHeaders headers.get? forwardedRequestHeaders)

/-- The call is forwarded with its body, and answered with what the exchange came to. -/
def GatewayApp.forward : List UpstreamRequest × Result :=
  if gw.streams body then
    ((gw.streamExchange headers body).1, answer respondStreamed (gw.streamExchange headers body).2)
  else
    ((gw.bufferedExchange headers body).1,
      answer respondBuffered (gw.bufferedExchange headers body).2)

end

/-! ### What observation can bear -/

/-- The body is parsed, or is no JSON; and a method, if it has one, can be hashed and
encoded. -/
def Observation.BodyFit (o : Observation) (body : Bytes) : Prop :=
  match o.loads body with
  | .ok (.obj fields) =>
      match Fields.getD fields "method" .null with
      | .str method => method.codePoints.any isSurrogate = false
      | .arr _ | .obj _ => False
      | _ => True
  | .ok _ => True
  | .error exc => exc = .valueError ∨ exc = .typeError

/-- An answer is empty, is parsed or is no JSON. -/
def Observation.AnswerFit (o : Observation) (body : Bytes) : Prop :=
  body = [] ∨ ∀ exc, o.loads body = .error exc → exc = .valueError ∨ exc = .typeError

/-- The observer returns, or raises an `Exception`. -/
def Observation.ObserverFit (o : Observation) : Prop :=
  ∀ effect ∈ o.observer, effect = .returns ∨ effect = .raisesException

def GatewayApp.ExchangeFit (gw : GatewayApp urlsplit) (headers : Headers) (body : Bytes) : Prop :=
  if gw.streams body then
    match (gw.streamExchange headers body).2 with
    | .ok _ => gw.ObserverFit
    | .error exc => handledByProxy exc = true → gw.ObserverFit
  else
    match (gw.bufferedExchange headers body).2 with
    | .ok upstream => gw.AnswerFit upstream.body ∧ gw.ObserverFit
    | .error exc => handledByProxy exc = true → gw.ObserverFit

/-! ### Completion -/

theorem Observation.taskIdFromResponse_ok_iff (o : Observation) (responseBody : Option Bytes) :
    (∃ taskId, o.taskIdFromResponse responseBody = .ok taskId) ↔
      ∀ answer ∈ responseBody, o.AnswerFit answer := by
  cases responseBody with
  | none => exact ⟨fun _ _ h => (nomatch h), fun _ => ⟨none, rfl⟩⟩
  | some body =>
      cases body with
      | nil =>
          refine ⟨fun _ answer h => ?_, fun _ => ⟨none, rfl⟩⟩
          cases h
          exact .inl rfl
      | cons b body =>
          unfold Observation.taskIdFromResponse
          dsimp only
          have hne : b :: body ≠ [] := List.cons_ne_nil _ _
          cases hloads : o.loads (b :: body) with
          | ok document =>
              refine ⟨fun _ answer h => ?_, fun _ => ⟨_, rfl⟩⟩
              cases h
              right
              intro exc hexc
              rw [hloads] at hexc
              cases hexc
          | error exc =>
              constructor
              · rintro ⟨taskId, htaskId⟩ answer h
                cases h
                right
                intro exc' hexc'
                cases hloads.symm.trans hexc'
                cases exc <;> first | exact .inl rfl | exact .inr rfl | cases htaskId
              · intro h
                rcases h _ rfl with hnil | hfit
                · exact absurd hnil hne
                · rcases hfit exc hloads with rfl | rfl
                  · exact ⟨none, rfl⟩
                  · exact ⟨none, rfl⟩

theorem Observation.complete_done_iff (o : Observation) (tracker : Tracker) (outcome : Outcome)
    (responseBody : Option Bytes) :
    (o.complete tracker outcome responseBody).2 = .done ↔
      (∀ answer ∈ responseBody, o.AnswerFit answer) ∧ o.ObserverFit := by
  rw [← o.taskIdFromResponse_ok_iff]
  unfold Observation.complete
  cases o.taskIdFromResponse responseBody with
  | error exc =>
      refine ⟨fun h => ?_, fun h => ?_⟩
      · cases h
      · obtain ⟨⟨taskId, htaskId⟩, -⟩ := h
        cases htaskId
  | ok taskId =>
      rw [and_iff_right ⟨taskId, rfl⟩]
      unfold Observation.ObserverFit
      dsimp only
      cases o.observer with
      | none => exact ⟨fun _ _ h => (nomatch h), fun _ => rfl⟩
      | some effect =>
          cases effect with
          | returns => exact ⟨fun _ effect h => by cases h; exact .inl rfl, fun _ => rfl⟩
          | raisesException => exact ⟨fun _ effect h => by cases h; exact .inr rfl, fun _ => rfl⟩
          | raisesBaseException =>
              refine ⟨fun h => ?_, fun h => ?_⟩
              · cases h
              · rcases h _ rfl with heq | heq <;> cases heq
          | neverReturns =>
              refine ⟨fun h => ?_, fun h => ?_⟩
              · cases h
              · rcases h _ rfl with heq | heq <;> cases heq

theorem Observation.completing_result_iff (o : Observation) (tracker : Tracker) (outcome : Outcome)
    (responseBody : Option Bytes) (sent : List UpstreamRequest) (response : Response) :
    (o.completing tracker outcome responseBody sent (.response response)).result =
        .response response ↔
      (∀ answer ∈ responseBody, o.AnswerFit answer) ∧ o.ObserverFit := by
  rw [← o.complete_done_iff tracker outcome]
  unfold Observation.completing
  split
  · rename_i heq
    rw [heq]
    exact ⟨fun _ => rfl, fun _ => rfl⟩
  · rename_i heq
    rw [heq]
    refine ⟨fun h => ?_, fun h => ?_⟩ <;> cases h
  · rename_i heq
    rw [heq]
    refine ⟨fun h => ?_, fun h => ?_⟩ <;> cases h

theorem Observation.failed_result_iff {β : Type} (o : Observation) (tracker : Tracker)
    (respond : UpstreamResponse β → Response) (sent : List UpstreamRequest) (exc : GatewayExc) :
    (if handledByProxy exc then
        o.completing tracker .upstreamUnavailable none sent (.response unavailable)
      else { sent, records := [], result := .raised exc }).result = answer respond (.error exc) ↔
      (handledByProxy exc = true → o.ObserverFit) := by
  unfold answer
  dsimp only
  split
  · rename_i hhandled
    rw [o.completing_result_iff]
    constructor
    · intro h _
      exact h.2
    · intro h
      refine ⟨fun answer hanswer => ?_, h hhandled⟩
      cases hanswer
  · rename_i hhandled
    exact ⟨fun _ h => absurd h hhandled, fun _ => rfl⟩

/-! ### The two kinds of call -/

section

variable (gw : GatewayApp urlsplit) (tracker : Tracker) (context : RequestContext) (url : Uri)
  (body : Bytes) (headers : Headers)

theorem GatewayApp.buffered_result_iff :
    (gw.buffered tracker context url body headers).result =
        answer respondBuffered (gw.exchange gw.send context url body headers).2 ↔
      match (gw.exchange gw.send context url body headers).2 with
      | .ok upstream => gw.AnswerFit upstream.body ∧ gw.ObserverFit
      | .error exc => handledByProxy exc = true → gw.ObserverFit := by
  unfold GatewayApp.buffered
  split
  · rename_i sent exc heq
    rw [heq]
    exact Observation.failed_result_iff ..
  · rename_i sent upstream heq
    rw [heq]
    unfold answer respondBuffered
    dsimp only
    rw [Observation.completing_result_iff]
    constructor
    · exact fun h => ⟨h.1 _ rfl, h.2⟩
    · intro h
      refine ⟨fun answer hanswer => ?_, h.2⟩
      cases hanswer
      exact h.1

theorem GatewayApp.streamed_result_iff :
    (gw.streamed tracker context url body headers).result =
        answer respondStreamed (gw.exchange gw.sendStream context url body headers).2 ↔
      match (gw.exchange gw.sendStream context url body headers).2 with
      | .ok _ => gw.ObserverFit
      | .error exc => handledByProxy exc = true → gw.ObserverFit := by
  unfold GatewayApp.streamed
  split
  · rename_i sent exc heq
    rw [heq]
    exact Observation.failed_result_iff ..
  · rename_i sent upstream heq
    rw [heq]
    have hdone := gw.complete_done_iff tracker upstream.body.ending.outcome none
    unfold answer respondStreamed
    dsimp only
    rw [and_iff_right fun _ hanswer => nomatch hanswer] at hdone
    rw [← hdone]
    cases (gw.complete tracker upstream.body.ending.outcome none).2 with
    | done => exact ⟨fun _ => rfl, fun _ => rfl⟩
    | raised exc => simp
    | never => simp

end

/-! ### The body of a call -/

theorem asksForStream_obj (fields : Fields) :
    asksForStream (.obj fields) =
      if (Fields.getD fields "method" .null).hashable then
        .ok (match Fields.getD fields "method" .null with
          | .str (.text name) => name == "SendStreamingMessage" || name == "SubscribeToTask"
          | _ => false)
      else .error .typeError := by
  unfold asksForStream
  dsimp only
  cases hmethod : Fields.getD fields "method" .null with
  | str method => cases method <;> rfl
  | _ => rfl

theorem requestMethodOf_obj (fields : Fields) :
    requestMethodOf (.obj fields) =
      match Fields.getD fields "method" .null with
      | .str method => method
      | _ => .text "POST" := by
  unfold requestMethodOf Fields.getD
  dsimp only
  cases Fields.get? fields "method" with
  | none => rfl
  | some method => cases method <;> rfl

/-- A fit body is parsed, has a method that can be encoded and says what it asks for. -/
theorem Observation.fit_spec {o : Observation} {body : Bytes} (h : o.BodyFit body) :
    ∃ document, o.jsonrpcRequest body = .ok document ∧
      (requestMethodOf document).codePoints.any isSurrogate = false ∧
      asksForStream document = .ok (o.streams body) := by
  have hpost : (PyStr.text "POST").codePoints.any isSurrogate = false := any_codePoints "POST"
  unfold Observation.BodyFit at h
  unfold Observation.jsonrpcRequest Observation.streams
  cases hloads : o.loads body with
  | error exc =>
      rw [hloads] at h
      rcases h with rfl | rfl
      · exact ⟨_, rfl, hpost, rfl⟩
      · exact ⟨_, rfl, hpost, rfl⟩
  | ok document =>
      rw [hloads] at h
      refine ⟨document, rfl, ?_⟩
      cases document with
      | obj fields =>
          rw [requestMethodOf_obj, asksForStream_obj]
          dsimp only at h ⊢
          cases hmethod : Fields.getD fields "method" .null with
          | str method =>
              rw [hmethod] at h
              exact ⟨h, rfl⟩
          | arr items =>
              rw [hmethod] at h
              exact h.elim
          | obj fields =>
              rw [hmethod] at h
              exact h.elim
          | _ => exact ⟨hpost, rfl⟩
      | _ => exact ⟨hpost, rfl⟩

/-- A body that is not fit makes the parser, the hash or the test of the method raise. -/
theorem Observation.unfit_spec {o : Observation} {body : Bytes} (h : ¬o.BodyFit body) :
    (∃ exc, o.jsonrpcRequest body = .error exc) ∨
      ∃ document, o.jsonrpcRequest body = .ok document ∧
        ((requestMethodOf document).codePoints.any isSurrogate = true ∨
          ∃ exc, asksForStream document = .error exc) := by
  unfold Observation.BodyFit at h
  unfold Observation.jsonrpcRequest
  cases hloads : o.loads body with
  | error exc =>
      rw [hloads] at h
      left
      cases exc <;> first | exact absurd (.inl rfl) h | exact absurd (.inr rfl) h | exact ⟨_, rfl⟩
  | ok document =>
      rw [hloads] at h
      refine .inr ⟨document, rfl, ?_⟩
      cases document with
      | obj fields =>
          rw [requestMethodOf_obj, asksForStream_obj]
          dsimp only at h ⊢
          cases hmethod : Fields.getD fields "method" .null with
          | str method =>
              rw [hmethod] at h
              exact .inl (Bool.not_eq_false _ |>.mp h)
          | arr items => exact .inr ⟨_, rfl⟩
          | obj fields => exact .inr ⟨_, rfl⟩
          | _ =>
              rw [hmethod] at h
              exact absurd trivial h
      | _ => exact absurd trivial h

/-! ### The proxy -/

section

variable {gw : GatewayApp urlsplit} {headers : Headers} {body : Bytes}

theorem proxyJsonrpc_of_fit (hversion : gw.supportsA2aVersion (headers.get? "a2a-version") = true)
    (h : gw.BodyFit body) :
    ∃ tracker, gw.proxyJsonrpc headers body =
      if gw.streams body then
        gw.streamed tracker { method := "POST", url := gw.settings.upstreamBaseUrl ++ jsonrpcPath }
          (Uri.parse (gw.settings.upstreamBaseUrl ++ jsonrpcPath)) body
          (selectedHeaders headers.get? forwardedRequestHeaders)
      else
        gw.buffered tracker { method := "POST", url := gw.settings.upstreamBaseUrl ++ jsonrpcPath }
          (mergeUrl gw.settings.upstreamBaseUrl jsonrpcPath) body
          (selectedHeaders headers.get? forwardedRequestHeaders) := by
  obtain ⟨document, hdocument, hmethod, hasks⟩ := Observation.fit_spec h
  unfold GatewayApp.proxyJsonrpc
  rw [hdocument]
  dsimp only
  rw [Observation.track_eq]
  dsimp only
  rw [hmethod, if_neg Bool.false_ne_true, hversion, hasks]
  dsimp only
  rw [if_neg (by decide)]
  cases gw.streams body with
  | true => exact ⟨_, rfl⟩
  | false => exact ⟨_, rfl⟩

theorem proxyJsonrpc_of_unfit (hversion : gw.supportsA2aVersion (headers.get? "a2a-version") = true)
    (h : ¬gw.BodyFit body) : ∃ exc, gw.proxyJsonrpc headers body = .raising exc := by
  unfold GatewayApp.proxyJsonrpc
  rcases Observation.unfit_spec h with ⟨exc, hexc⟩ | ⟨document, hdocument, hraises⟩
  · rw [hexc]
    exact ⟨exc, rfl⟩
  rw [hdocument]
  dsimp only
  rw [Observation.track_eq]
  dsimp only
  split
  · rename_i exc _
    exact ⟨exc, rfl⟩
  · rename_i tracker htrack
    split at htrack
    · cases htrack
    rename_i hmethod
    rcases hraises with hsurrogate | ⟨exc, hexc⟩
    · exact absurd hsurrogate hmethod
    · rw [hversion, hexc]
      exact ⟨exc, rfl⟩

/-- Without a request there is an answer all the same. -/
theorem forward_ne_raising (exc : GatewayExc) : gw.forward headers body ≠ ([], .raised exc) := by
  have hexchange : ∀ {β : Type} (send : UpstreamRequest → Except GatewayExc (UpstreamResponse β))
      (respond : UpstreamResponse β → Response) (context : RequestContext) (url : Uri)
      (selected : Headers),
      ((gw.exchange send context url body selected).1,
        answer respond (gw.exchange send context url body selected).2) ≠
          (([], .raised exc) : List UpstreamRequest × Result) := by
    intro β send respond context url selected h
    unfold GatewayApp.exchange at h
    split at h
    · cases h
    · cases h
  unfold GatewayApp.forward
  split
  · exact hexchange _ _ _ _ _
  · exact hexchange _ _ _ _ _

end

def versionHeader : Headers := [("a2a-version", "1.0")]

/-- A call with a method. -/
def messageBody : Bytes :=
  "\x7b\"method\":\"SendMessage\"\x7d".toList.map fun c => UInt8.ofNat c.toNat

/-- Its observer fails. -/
def observedGateway : GatewayApp splitAgentExample :=
  { agentExample rootSettings with
    loads := fun body =>
      if body = messageBody then .ok (.obj [(.text "method", .str (.text "SendMessage"))])
      else .ok (.obj [])
    observer := some .raisesException }

/-- `"\ud800"` as the method of a call. -/
def surrogateBody : Bytes :=
  "\x7b\"method\":\"\\ud800\"\x7d".toList.map fun c => UInt8.ofNat c.toNat

/-- What `json.loads` makes of it. -/
def surrogateGateway : GatewayApp splitAgentExample :=
  { agentExample rootSettings with
    loads := fun body =>
      if body = surrogateBody then .ok (.obj [(.text "method", .str (.lone [0xD800]))])
      else .error .valueError }

end Kin.Gateway
