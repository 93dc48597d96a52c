import PpqTee.Client.Build
import PpqTee.Client.Completion
import PpqTee.Proxy.Retry

/-! The chat endpoint of the proxy, and what its callers get to see of the enclave. -/

namespace PpqTee.Proxy
open Client

def MAX_REQUEST_BODY_BYTES : Nat := 16 * 1024 * 1024

/-- An error in OpenAI's shape, or an error body of the enclave relayed as it is. -/
inductive ApiError where
  | shaped (status : StatusCode) (kind : String) (code : Option String) (message : String)
  | enclave (status : StatusCode) (body : String)
  deriving DecidableEq, Repr

inductive AnswerBody where
  | json (v : Value)
  | text (message : String)
  /-- Cut off after the first error. -/
  | sse (items : List (Result Bytes))

structure Answer where
  status : StatusCode
  headers : HeaderMap
  body : AnswerBody

inductive Call where
  | completion (body : Value)
  | stream (body : Value)

inductive Reply where
  | completion (v : Value)
  | stream (items : List (Result Bytes))

def ApiError.invalidRequest (message : String) : ApiError :=
  .shaped StatusCode.BAD_REQUEST "invalid_request_error" none message

variable (crates : Crates) (debugStr : String → String)

def ApiError.ofError : Error → ApiError
  | .enclave status body =>
    match StatusCode.fromU16 status with
    | some status => .enclave status body
    | none => .shaped StatusCode.BAD_GATEWAY "upstream_error" (some "enclave_error")
        s!"enclave returned unusable HTTP status {status}: {body}"
  | .unauthenticatedUpstream status body =>
    .shaped StatusCode.BAD_GATEWAY "upstream_error" (some "unauthenticated_upstream")
      s!"request was rejected before reaching the enclave (HTTP {status}; unauthenticated diagnostics): {body}"
  | .http e => .shaped StatusCode.BAD_GATEWAY "upstream_error" (some "transport")
      s!"transport failure talking to the enclave: {e.message}"
  | .ehbp e => .shaped StatusCode.BAD_GATEWAY "upstream_error" (some "ehbp_protocol")
      s!"sealed channel protocol error: {e}"
  | .json e => .shaped StatusCode.BAD_GATEWAY "upstream_error" (some "malformed_response")
      s!"enclave response was not valid JSON: {e.message}"
  | .attestation e =>
    .shaped StatusCode.SERVICE_UNAVAILABLE "upstream_error" (some "attestation_failed")
      s!"the enclave could not be verified: {e}"
  | .invalidModelId id => .invalidRequest s!"model id cannot be sent: {debugStr id}"

def jsonAnswer (status : StatusCode) (v : Value) : Answer :=
  ⟨status, [("content-type", utf8 "application/json")], .json v⟩

/-- `json!` with an error object; its map keeps the keys in order. -/
def errorObject (message kind : String) (code : Option String) : Value :=
  .object [("error", .object
    [("code", (code.map Value.string).getD .null), ("message", .string message), ("param", .null),
      ("type", .string kind)])]

def ApiError.intoResponse : ApiError → Answer
  | .shaped status kind code message => jsonAnswer status (errorObject message kind code)
  | .enclave status body =>
    match crates.jsonFromSlice (utf8 body) with
    | .ok v => jsonAnswer status v
    | .error _ => jsonAnswer status (errorObject body "upstream_error" (some "enclave_error"))

/-- The first half of `chat_completions`, before the sealed client is called. -/
def parseCall (body : Bytes) : Except ApiError Call :=
  match crates.jsonFromSlice body with
  | .error e => .error (.invalidRequest s!"request body is not valid JSON: {e.message}")
  | .ok v =>
    match v.asObject with
    | none => .error (.invalidRequest "request body must be a JSON object")
    | some obj =>
      match (Fields.get obj "model").bind Value.asStr with
      | none => .error (.invalidRequest "you must provide a model parameter")
      | some _ =>
        match Fields.get obj "stream" with
        | none | some .null | some (.bool false) => .ok (.completion v)
        | some (.bool true) => .ok (.stream v)
        | some _ => .error (.invalidRequest "'stream' must be a boolean")

/-- The limit on the body comes before the endpoint. -/
def accept (body : Bytes) : Except Answer Call :=
  if MAX_REQUEST_BODY_BYTES < body.length then
    .error ⟨StatusCode.PAYLOAD_TOO_LARGE, [("content-type", utf8 "text/plain; charset=utf-8")],
      .text "Failed to buffer the request body: length limit exceeded"⟩
  else (parseCall crates body).mapError (ApiError.intoResponse crates)

/-- The second half of `chat_completions`, once the sealed client has returned. -/
def answer : Result Reply → Answer
  | .ok (.completion v) => jsonAnswer StatusCode.OK v
  | .ok (.stream items) =>
    ⟨StatusCode.OK, [("content-type", utf8 "text/event-stream"), ("cache-control", utf8 "no-cache")],
      .sse items⟩
  | .error e => (ApiError.ofError debugStr e).intoResponse crates

/-- The operation that `with_reattest` runs. -/
def Call.perform (client : PpqClient) (upstream : Upstream crates) : Call → Result Reply
  | .completion body => (chatCompletion crates client upstream body).map .completion
  | .stream body => (chatCompletionStream crates client upstream body).map .stream

structure Builder where
  crates : Attest.Crates
  bundleFromStr : String → Except JsonError Attest.AttestationBundle
  builder : PpqClientBuilder

def Builder.attest (attester : Builder) (network : Network) : Result PpqClient :=
  attester.builder.build attester.crates attester.bundleFromStr network

/-- The requests are those the endpoint accepts, each operation meets some upstream, and each
attestation some network. -/
def Served (attester : Builder) : Event PpqClient Call Reply → Prop
  | (_, .arrive _ call) => ∃ body, accept crates body = .ok call
  | (_, .attested _ outcome) => ∃ network, outcome = attester.attest network
  | (s, .finish i outcome) => ∀ call cached, (s.tasks i).runs = some (call, cached) →
      ∃ upstream, outcome = call.perform crates cached.client.value upstream
  | _ => True

/-- What is answered with a success status is what the upstream sealed for this very call. -/
inductive Authentic (client : PpqClient) (upstream : Upstream crates) : Call → Answer → Prop
  | completion {body v : Value} (authentic : AuthenticCompletion crates client upstream body v) :
      Authentic client upstream (.completion body) (jsonAnswer StatusCode.OK v)
  | stream {body : Value} {headers : HeaderMap} {items : List (Result Bytes)}
      (authentic : AuthenticStream crates client upstream body items) :
      Authentic client upstream (.stream body) ⟨StatusCode.OK, headers, .sse items⟩

variable {crates debugStr} {policy : ReattestPolicy}

theorem answer_error {e : Error} (harmless : NoSuccess e) :
    (answer crates debugStr (.error e)).status.isSuccess = false := by
  cases e with
  | enclave status body =>
    unfold answer ApiError.ofError
    simp only
    cases read : StatusCode.fromU16 status with
    | none => rfl
    | some code =>
      have same := StatusCode.code_of_fromU16 read
      have failure : code.isSuccess = false := by
        rw [StatusCode.isSuccess, same]
        simpa [NoSuccess] using harmless
      simp only [ApiError.intoResponse]
      split
      · exact failure
      · exact failure
  | _ => rfl

theorem perform_fails (client : PpqClient) (upstream : Upstream crates) (call : Call) :
    Fails NoSuccess (call.perform crates client upstream) := by
  intro e failed
  cases call with
  | completion body =>
    apply chatCompletion_fails client upstream body
    cases result : chatCompletion crates client upstream body with
    | ok v => simp [Call.perform, result, Except.map] at failed
    | error cause => simpa [Call.perform, result, Except.map] using failed
  | stream body =>
    apply chatCompletionStream_fails client upstream body
    cases result : chatCompletionStream crates client upstream body with
    | ok items => simp [Call.perform, result, Except.map] at failed
    | error cause => simpa [Call.perform, result, Except.map] using failed

theorem perform_ok (rejectsEmpty : ∀ v, crates.jsonFromSlice [] ≠ .ok v) {client : PpqClient}
    {upstream : Upstream crates} {call : Call} {reply : Reply}
    (performed : call.perform crates client upstream = .ok reply) :
    Authentic crates client upstream call (answer crates debugStr (.ok reply)) := by
  cases call with
  | completion body =>
    obtain ⟨v, completed, same⟩ := map_ok.mp performed
    subst same
    exact .completion (chatCompletion_ok rejectsEmpty completed)
  | stream body =>
    obtain ⟨items, streamed, same⟩ := map_ok.mp performed
    subst same
    exact .stream (chatCompletionStream_ok streamed)

/-- A request that is answered with a success status is answered with what the upstream of its last
attempt sealed for it. -/
theorem answer_authentic (rejectsEmpty : ∀ v, crates.jsonFromSlice [] ≠ .ok v)
    {attester : Builder} {now : Nat} {client : PpqClient}
    {trace : List (Event PpqClient Call Reply)} {s : State PpqClient Call Reply}
    (run : Transition.Run (step policy) (Attested.new now client) trace s)
    (served : ∀ e ∈ trace, Served crates attester e) {i : Nat} {result : Result Reply}
    (done : s.tasks i = .done result)
    (success : (answer crates debugStr result).status.isSuccess = true) :
    ∃ m call cached upstream, (m, .finish i result) ∈ trace ∧
      (m.tasks i).runs = some (call, cached) ∧
      result = call.perform crates cached.client.value upstream ∧
      Authentic crates cached.client.value upstream call (answer crates debugStr result) := by
  obtain ⟨before, m, a, after, whole, -, cause⟩ := done_at run done
  have member : (m, a) ∈ trace := by simp [whole]
  rcases cause with ⟨same, ⟨call, cached⟩, runs⟩ | ⟨e, same, -, failed⟩
  · subst same
    obtain ⟨upstream, performed⟩ := served _ member call cached runs
    refine ⟨m, call, cached, upstream, member, runs, performed, ?_⟩
    cases result with
    | ok reply => exact perform_ok rejectsEmpty performed.symm
    | error e =>
      have harmless := perform_fails cached.client.value upstream call e performed.symm
      rw [answer_error harmless] at success
      cases success
  · subst same
    obtain ⟨network, attested⟩ := served _ member
    have harmless := build_fails _ _ _ network e attested.symm
    rw [failed, answer_error harmless] at success
    cases success

/-- Only authenticated plaintext is ever presented as a completion: by the client, in one piece
or as a stream, and by the proxy, whatever the upstreams of all its attempts do. -/
theorem only_authenticated_plaintext (crates : Crates) (debugStr : String → String)
    (rejectsEmpty : ∀ v, crates.jsonFromSlice [] ≠ .ok v) :
    (∀ client upstream body v, chatCompletion crates client upstream body = .ok v →
      AuthenticCompletion crates client upstream body v) ∧
    (∀ client upstream body items, chatCompletionStream crates client upstream body = .ok items →
      AuthenticStream crates client upstream body items) ∧
    ∀ (attester : Builder) (policy : ReattestPolicy) (now : Nat) (client : PpqClient)
      (trace : List (Event PpqClient Call Reply)) (s : State PpqClient Call Reply),
      Transition.Run (step policy) (Attested.new now client) trace s →
      (∀ e ∈ trace, Served crates attester e) →
      ∀ i result, s.tasks i = .done result →
        (answer crates debugStr result).status.isSuccess = true →
        ∃ m call cached upstream, (m, .finish i result) ∈ trace ∧
          (m.tasks i).runs = some (call, cached) ∧
          result = call.perform crates cached.client.value upstream ∧
          Authentic crates cached.client.value upstream call (answer crates debugStr result) :=
  ⟨fun _ _ _ _ answered => chatCompletion_ok rejectsEmpty answered,
    fun _ _ _ _ answered => chatCompletionStream_ok answered,
    fun _ _ _ _ _ _ run served _ _ done success =>
      answer_authentic rejectsEmpty run served done success⟩

def requestText : Bytes := utf8 "\x7b\"model\":\"m\"\x7d"

def requestBody : Value := .object [("model", .string "m")]

def knownJson (bytes : Bytes) : Except JsonError Value :=
  if bytes = utf8 "null" then .ok .null
  else if bytes = requestText then .ok requestBody
  else .error ⟨"expected value at line 1 column 1"⟩

def clearCrates : Crates where
  toCrypto := .clear
  Entropy := Unit
  PublicKey := Unit
  SenderCtx := Unit
  publicKeyFromBytes _ := .ok ()
  setupSender _ _ _ := .ok (List.replicate 32 0, ())
  ctxSeal ctx plain _ := (.ok (plain ++ List.replicate 16 0), ctx)
  ctxExport _ _ n := .ok (Vector.replicate n 0)
  hexDecode text := .ok (List.replicate (text.toList.length / 2) 0)
  hexEncode bytes := String.ofList (List.replicate (2 * bytes.length) '0')
  jsonFromSlice := knownJson
  jsonToVec _ := .ok requestText
  headerValueFromStr text := some (utf8 text)
  headerValueToStr bytes := some (String.ofList (bytes.map fun b => Char.ofNat b.toNat))
  hexIsHeaderValue _ := rfl

theorem clearCrates_rejectsEmpty (v : Value) : clearCrates.jsonFromSlice [] ≠ .ok v := by
  show knownJson [] ≠ .ok v
  unfold knownJson
  rw [if_neg (by decide), if_neg (by decide)]
  intro same
  cases same

theorem clearCrates_requestText : clearCrates.jsonFromSlice requestText = .ok requestBody := by
  show knownJson requestText = _
  unfold knownJson
  rw [if_neg (by decide), if_pos rfl]

theorem accept_clear : accept clearCrates requestText = .ok (.completion requestBody) := by
  have fits : ¬ MAX_REQUEST_BODY_BYTES < requestText.length := by decide +kernel
  unfold accept parseCall
  rw [if_neg fits, clearCrates_requestText]
  rfl

def clearUpstream : Upstream clearCrates where
  entropy := ()
  send _ := .ok
    { status := .OK
      headers := [("ehbp-response-nonce", utf8 (String.ofList (List.replicate 64 '0')))]
      body := [.ok (Ehbp.frame (utf8 "null" ++ List.replicate 16 0))] }

def isNull : Result Value → Bool
  | .ok .null => true
  | _ => false

theorem chatCompletion_clear :
    chatCompletion clearCrates plainClient clearUpstream requestBody = .ok .null := by
  have completed : isNull (chatCompletion clearCrates plainClient clearUpstream requestBody) =
      true := by decide +kernel
  unfold isNull at completed
  split at completed
  · assumption
  · cases completed

def answered : List (Event PpqClient Call Reply) × State PpqClient Call Reply :=
  Transition.execute (step default) (Attested.new 0 plainClient)
    [.arrive 0 (.completion requestBody), .read 0, .finish 0 (.ok (.completion .null))]

theorem served_answered : ∀ e ∈ answered.1,
    Served clearCrates ⟨Attest.lenient, fun _ => .error ⟨""⟩, ⟨none, none, none⟩⟩ e := by
  have events : ∃ a b c cached, answered.1 =
      [(a, .arrive 0 (.completion requestBody)), (b, .read 0),
        (c, .finish 0 (.ok (.completion .null)))] ∧
      (c.tasks 0).runs = some (.completion requestBody, cached) ∧
      cached.client.value = plainClient := ⟨_, _, _, _, rfl, rfl, rfl⟩
  obtain ⟨a, b, c, cached, whole, runs, attested⟩ := events
  rw [whole, List.forall_mem_cons, List.forall_mem_cons, List.forall_mem_singleton]
  refine ⟨⟨requestText, accept_clear⟩, trivial, ?_⟩
  intro call other running
  rw [runs] at running
  cases running
  exact ⟨clearUpstream, by rw [Call.perform, attested, chatCompletion_clear]; rfl⟩

theorem only_authenticated_plaintext_answered :
    ∃ m call cached upstream, (m, .finish 0 (.ok (.completion .null))) ∈ answered.1 ∧
      (m.tasks 0).runs = some (call, cached) ∧
      .ok (.completion .null) = call.perform clearCrates cached.client.value upstream ∧
      Authentic clearCrates cached.client.value upstream call (jsonAnswer .OK .null) :=
  (only_authenticated_plaintext clearCrates id clearCrates_rejectsEmpty).2.2
    _ default 0 plainClient answered.1 answered.2 (Transition.Run.execute _ _ _) served_answered 0
    (.ok (.completion .null)) rfl rfl

end PpqTee.Proxy
