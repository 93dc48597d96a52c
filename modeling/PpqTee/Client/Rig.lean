import PpqTee.Client
import PpqTee.Ehbp.Framing

/-! The `rig` transport beside the JSON one: rig builds the request and hands it to an HTTP backend
that seals it. What both of them give to `seal_and_send` is compared. -/

namespace PpqTee.Client
open Ehbp

def RIG_BASE_PATH : String := "/private/v1"

/-- An HTTP backend for rig. `Default` leaves it without a client. -/
structure EhbpHttp where
  inner : Option PpqClient

def EhbpHttp.attested (http : EhbpHttp) : Result PpqClient :=
  okOr http.inner
    (.attestation "this EHBP backend is not attested to any enclave and will not send")

/-- `http::request::Parts`. -/
structure Parts where
  method : String
  uri : String
  headers : HeaderMap

def HeaderMap.append (headers : HeaderMap) (name : String) (value : Bytes) : HeaderMap :=
  headers ++ [(name, value)]

/-- `openai::completion::CompletionRequest`: the model it asks for, and its other fields. -/
structure CompletionRequest where
  model : String
  rest : Fields

/-- `PpqExt::prepare_request`. -/
def prepareRequest (request : CompletionRequest) : CompletionRequest :=
  { request with model := enclaveModelId request.model }

/-- `rig-core`. A core request comes with the kind of completion, streamed or not, and may name a
model of its own. -/
structure Rig where
  CoreRequest : Type
  modelOverride : CoreRequest → Option String
  build : (baseUrl : String) → (headers : HeaderMap) → Except String Unit
  toRequest : (id : String) → CoreRequest → Except String CompletionRequest
  toFields : CompletionRequest → Fields
  toParts : (baseUrl : String) → (headers : HeaderMap) → CoreRequest → Parts

/-- What this crate relies on: the request asks for the override, or else for the model's id; it is
serialized with the model it asks for; the client's headers go out as they are. -/
structure Rig.Lawful (rig : Rig) : Prop where
  effective : ∀ id core request, rig.toRequest id core = .ok request →
    request.model = (rig.modelOverride core).getD id
  serialized : ∀ request, Fields.get (rig.toFields request) "model" = some (.string request.model)
  default : ∀ baseUrl headers core name value, HeaderMap.get headers name = some value →
    HeaderMap.get (rig.toParts baseUrl headers core).headers name = some value

/-- What a completion fails with: rig's own errors, and those of its backend. -/
inductive CompletionError where
  | request (message : String)
  | transport (e : Error)

/-- A completion model: the rig client, with its backend and default headers, and an id. -/
structure PpqCompletionModel where
  baseUrl : String
  http : EhbpHttp
  headers : HeaderMap
  id : String

variable (crates : Crates)

/-- `send_sealed` of the rig transport. -/
def rigSendSealed (client : PpqClient) (upstream : Upstream crates) (parts : Parts)
    (body : Bytes) : Result (FrameDecoder × Response) :=
  if parts.method ≠ "POST" then
    .error (.ehbp s!"the sealed transport only carries POST, not {parts.method}")
  else
    let headers := parts.headers.foldl (fun headers header =>
      HeaderMap.append headers header.1 header.2) []
    sealAndSend crates client upstream parts.uri body headers

def completionModel (rig : Rig) (client : PpqClient) (id : String) : Result PpqCompletionModel := do
  let baseUrl := client.baseUrl ++ RIG_BASE_PATH
  let headers ← routingHeaders crates id
  (rig.build baseUrl headers).mapError fun e => .ehbp s!"could not build the rig client: {e}"
  .ok { baseUrl, http := ⟨some client⟩, headers, id }

/-- A completion, as far as the answer's decoder. -/
def PpqCompletionModel.complete (rig : Rig) (upstream : Upstream crates)
    (model : PpqCompletionModel) (core : rig.CoreRequest) :
    Except CompletionError (FrameDecoder × Response) := do
  let request ← (rig.toRequest model.id core).mapError .request
  let sent := rig.toFields (prepareRequest request)
  let body ← (crates.jsonToVec (.object sent)).mapError fun e => .transport (.json e)
  let client ← model.http.attested.mapError .transport
  (rigSendSealed crates client upstream (rig.toParts model.baseUrl model.headers core) body).mapError
    .transport

/-- One call of `seal_and_send`: the plaintext is the text of the object `sent`. -/
structure SealCall where
  client : PpqClient
  url : String
  sent : Fields
  plaintext : Bytes
  headers : HeaderMap

def SealCall.perform (call : SealCall) (upstream : Upstream crates) :
    Result (FrameDecoder × Response) :=
  sealAndSend crates call.client upstream call.url call.plaintext call.headers

/-- The call that a JSON request makes. -/
def jsonCall (client : PpqClient) (body : Value) (streams : Bool) : Result SealCall := do
  let (model, fields) ← takeModel body
  let sent := if streams then Fields.insert fields "stream" (.bool true) else fields
  let plaintext ← (crates.jsonToVec (.object sent)).mapError .json
  let headers ← routingHeaders crates model
  .ok { client, url := client.baseUrl ++ CHAT_COMPLETIONS_PATH, sent, plaintext, headers }

/-- The call that a rig request makes. -/
def PpqCompletionModel.sealCall (rig : Rig) (model : PpqCompletionModel) (core : rig.CoreRequest) :
    Except CompletionError SealCall := do
  let request ← (rig.toRequest model.id core).mapError .request
  let sent := rig.toFields (prepareRequest request)
  let plaintext ← (crates.jsonToVec (.object sent)).mapError fun e => .transport (.json e)
  let client ← model.http.attested.mapError .transport
  let parts := rig.toParts model.baseUrl model.headers core
  if parts.method ≠ "POST" then
    .error (.transport (.ehbp s!"the sealed transport only carries POST, not {parts.method}"))
  else .ok { client, url := parts.uri, sent, plaintext, headers := parts.headers }

variable {crates}

theorem foldl_append (headers front : HeaderMap) :
    headers.foldl (fun headers header => HeaderMap.append headers header.1 header.2) front =
      front ++ headers := by
  induction headers generalizing front with
  | nil => rw [List.foldl_nil, List.append_nil]
  | cons header headers ih =>
    calc (header :: headers).foldl
          (fun headers header => HeaderMap.append headers header.1 header.2) front
        = front ++ [(header.1, header.2)] ++ headers := ih _
      _ = front ++ header :: headers := List.append_assoc front [header] headers

theorem chatCompletion_call (client : PpqClient) (upstream : Upstream crates) (body : Value) :
    chatCompletion crates client upstream body = (do
      let call ← jsonCall crates client body false
      let (decoder, response) ← call.perform crates upstream
      let out ← openBody crates.toCrypto decoder response
      (crates.jsonFromSlice out).mapError .json) := by
  unfold chatCompletion jsonCall sendSealed SealCall.perform
  simp only [bind_assoc, Bool.false_eq_true, if_false, ok_bind]

theorem chatCompletionStream_call (client : PpqClient) (upstream : Upstream crates) (body : Value) :
    chatCompletionStream crates client upstream body = (do
      let call ← jsonCall crates client body true
      let (decoder, response) ← call.perform crates upstream
      openStream crates.toCrypto decoder response) := by
  unfold chatCompletionStream jsonCall sendSealed SealCall.perform
  simp only [bind_assoc, if_true, ok_bind]

/-- The header and the body of one request: the body asks for what the header names. -/
def OneModel (sent : Fields) (request : Request) : Prop :=
  ∃ name, HeaderMap.get request.headers "x-private-model" = some (utf8 name) ∧
    Fields.get sent "model" = some (.string (enclaveModelId name))

theorem utf8_injective {s t : String} (same : utf8 s = utf8 t) : s = t := by
  rw [← fromUtf8Lossy_utf8 s, ← fromUtf8Lossy_utf8 t, same]

theorem oneModel_iff {sent : Fields} {request : Request} {name model : String}
    (header : HeaderMap.get request.headers "x-private-model" = some (utf8 name))
    (body : Fields.get sent "model" = some (.string model)) :
    OneModel sent request ↔ model = enclaveModelId name := by
  unfold OneModel
  rw [header, body]
  apply Iff.intro
  · intro consistent
    obtain ⟨name', named, asked⟩ := consistent
    have same := utf8_injective (Option.some.inj named)
    rw [same]
    cases asked
    rfl
  · intro same
    exact ⟨name, rfl, by rw [same]⟩

/-- The headers that are put over those of the caller do not include the model's. -/
theorem sealRequest_header {client : PpqClient} {entropy : crates.Entropy} {url : String}
    {plaintext : Bytes} {headers : HeaderMap} {request : Request} {session : ResponseSession}
    (made : sealRequest crates client entropy url plaintext headers = .ok (request, session)) :
    HeaderMap.get request.headers "x-private-model" = HeaderMap.get headers "x-private-model" := by
  obtain ⟨_, _, bearer, encHeader, _, _, _, _, same⟩ := sealRequest_ok.mp made
  rw [same]
  exact get_sealedHeaders headers bearer encHeader

theorem routingHeaders_ok {model : String} {headers : HeaderMap}
    (legal : routingHeaders crates model = .ok headers) :
    ∃ value, crates.headerValueFromStr model = some value ∧
      HeaderMap.get headers "x-private-model" = some value := by
  unfold routingHeaders at legal
  split at legal
  · cases legal
  · rename_i value valid
    cases legal
    refine ⟨value, valid, ?_⟩
    rw [HeaderMap.get_insert, HeaderMap.get_insert, if_neg (by decide), if_pos rfl]

theorem takeModel_ok {body : Value} {model : String} {fields : Fields}
    (taken : takeModel body = .ok (model, fields)) :
    Fields.get fields "model" = some (.string (enclaveModelId model)) := by
  unfold takeModel at taken
  split at taken
  · cases taken
  · split at taken
    · cases taken
    · cases taken
      rw [Fields.get_insert, if_pos rfl]

/-- Legal header values go out as the text they were made from. -/
def Carries (crates : Crates) : Prop :=
  ∀ text value, crates.headerValueFromStr text = some value → value = utf8 text

/-- What a call is made of: its plaintext is the text of the fields that it records. -/
theorem jsonCall_ok {client : PpqClient} {body : Value} {streams : Bool} {call : SealCall}
    (made : jsonCall crates client body streams = .ok call) :
    ∃ model fields, takeModel body = .ok (model, fields) ∧
      call.sent = (if streams then Fields.insert fields "stream" (.bool true) else fields) ∧
      crates.jsonToVec (.object call.sent) = .ok call.plaintext ∧
      routingHeaders crates model = .ok call.headers ∧ call.client = client ∧
      call.url = client.baseUrl ++ CHAT_COMPLETIONS_PATH := by
  obtain ⟨⟨model, fields⟩, taken, rest⟩ := bind_ok.mp made
  obtain ⟨plaintext, printed, rest⟩ := bind_ok.mp rest
  obtain ⟨headers, legal, rest⟩ := bind_ok.mp rest
  cases rest
  exact ⟨model, fields, taken, rfl, mapError_ok.mp printed, legal, rfl, rfl⟩

theorem sealCall_prints {rig : Rig} {model : PpqCompletionModel} {core : rig.CoreRequest}
    {call : SealCall} (made : model.sealCall crates rig core = .ok call) :
    crates.jsonToVec (.object call.sent) = .ok call.plaintext := by
  obtain ⟨asks, _, rest⟩ := bind_ok.mp made
  obtain ⟨plaintext, printed, rest⟩ := bind_ok.mp rest
  obtain ⟨attested, _, rest⟩ := bind_ok.mp rest
  simp only at rest
  split at rest
  · cases rest
  · cases rest
    exact mapError_ok.mp printed

theorem jsonCall_oneModel (carries : Carries crates) {client : PpqClient} {body : Value}
    {streams : Bool} {call : SealCall} (made : jsonCall crates client body streams = .ok call)
    {entropy : crates.Entropy} {request : Request} {session : ResponseSession}
    (sealed : sealRequest crates call.client entropy call.url call.plaintext call.headers =
      .ok (request, session)) :
    crates.jsonToVec (.object call.sent) = .ok call.plaintext ∧ OneModel call.sent request := by
  obtain ⟨model, fields, taken, sent, printed, legal, _, _⟩ := jsonCall_ok made
  obtain ⟨value, valid, header⟩ := routingHeaders_ok legal
  have named := takeModel_ok taken
  rw [carries model value valid] at header
  have asked : Fields.get call.sent "model" = some (.string (enclaveModelId model)) := by
    rw [sent]
    cases streams with
    | false => exact named
    | true =>
      simp only [if_true]
      rw [Fields.get_insert, if_neg (by decide), named]
  exact ⟨printed, (oneModel_iff (by rw [sealRequest_header sealed, header]) asked).mpr rfl⟩

theorem sealCall_oneModel (carries : Carries crates) {rig : Rig} (lawful : rig.Lawful)
    {client : PpqClient} {id : String} {model : PpqCompletionModel}
    (built : completionModel crates rig client id = .ok model) {core : rig.CoreRequest}
    {call : SealCall} (made : model.sealCall crates rig core = .ok call)
    {entropy : crates.Entropy} {request : Request} {session : ResponseSession}
    (sealed : sealRequest crates call.client entropy call.url call.plaintext call.headers =
      .ok (request, session)) :
    OneModel call.sent request ↔
      enclaveModelId ((rig.modelOverride core).getD id) = enclaveModelId id := by
  obtain ⟨headers, legal, rest⟩ := bind_ok.mp built
  obtain ⟨_, _, rest⟩ := bind_ok.mp rest
  cases rest
  obtain ⟨value, valid, header⟩ := routingHeaders_ok legal
  rw [carries id value valid] at header
  obtain ⟨asks, converted, rest⟩ := bind_ok.mp made
  obtain ⟨plaintext, _, rest⟩ := bind_ok.mp rest
  obtain ⟨attested, _, rest⟩ := bind_ok.mp rest
  rw [mapError_ok] at converted
  by_cases post : (rig.toParts (client.baseUrl ++ RIG_BASE_PATH) headers core).method ≠ "POST"
  · simp only [if_pos post] at rest
    cases rest
  · simp only [if_neg post] at rest
    cases rest
    rw [← lawful.effective id core asks converted]
    apply oneModel_iff
    · rw [sealRequest_header sealed, lawful.default _ _ _ _ _ header]
    · exact lawful.serialized (prepareRequest asks)

/-- The body that is sealed asks for the model that the header names, on the JSON path always; on the
rig path, where the header was fixed with the completion model, unless the request overrides the
model with one that the enclave knows under another id. -/
theorem one_model_iff (carries : Carries crates) (rig : Rig) (lawful : rig.Lawful)
    (client : PpqClient) (entropy : crates.Entropy) :
    (∀ body streams call request session, jsonCall crates client body streams = .ok call →
      sealRequest crates call.client entropy call.url call.plaintext call.headers =
        .ok (request, session) →
      crates.jsonToVec (.object call.sent) = .ok call.plaintext ∧ OneModel call.sent request) ∧
    ∀ id model core call request session, completionModel crates rig client id = .ok model →
      model.sealCall crates rig core = .ok call →
      sealRequest crates call.client entropy call.url call.plaintext call.headers =
        .ok (request, session) →
      crates.jsonToVec (.object call.sent) = .ok call.plaintext ∧
        (OneModel call.sent request ↔ ∀ other, rig.modelOverride core = some other →
          enclaveModelId other = enclaveModelId id) := by
  apply And.intro
  · intro body streams call request session made sealed
    exact jsonCall_oneModel carries made sealed
  · intro id model core call request session built made sealed
    refine ⟨sealCall_prints made, ?_⟩
    rw [sealCall_oneModel carries lawful built made sealed]
    cases rig.modelOverride core with
    | none => simp
    | some other => simp

/-- What stands in for a hex text, one `0` a digit. -/
def zeroDigits (bytes : Bytes) : String :=
  String.ofList (List.replicate (2 * bytes.length) '0')

theorem zeroDigits_header (bytes : Bytes) : (some (utf8 (zeroDigits bytes))).isSome := rfl

def plainCrates : Crates where
  toCrypto := .clear
  toHpke := .clear
  hexDecode _ := .error "odd number of digits"
  hexEncode := zeroDigits
  jsonFromSlice _ := .error ⟨"expected value at line 1 column 1"⟩
  jsonToVec v :=
    match v with
    | .object [("model", .string model)] =>
      .ok (utf8 ("\x7b\"model\":\"" ++ model ++ "\"\x7d"))
    | _ => .ok (utf8 "null")
  headerValueFromStr text := some (utf8 text)
  headerValueToStr _ := none
  hexIsHeaderValue := zeroDigits_header

/-- rig, for requests of which only the override matters. -/
def plainRig : Rig where
  CoreRequest := Option String
  modelOverride core := core
  build _ _ := .ok ()
  toRequest id core := .ok ⟨core.getD id, []⟩
  toFields request := Fields.insert request.rest "model" (.string request.model)
  toParts baseUrl headers _ :=
    { method := "POST"
      uri := baseUrl ++ "/chat/completions"
      headers := headers ++ [("content-type", utf8 "application/json")] }

def plainClient : PpqClient where
  baseUrl := "https://a.b"
  apiKey := "k"
  attestation := ⟨Vector.replicate 32 0, Vector.replicate 32 0, Vector.replicate 48 0, "a.b"⟩

theorem carries_plain : Carries plainCrates := by
  intro text value same
  exact (Option.some.inj same).symm

theorem lawful_plain : plainRig.Lawful where
  effective id core request converted := by
    cases converted
    rfl
  serialized request := by
    show Fields.get (Fields.insert _ _ _) _ = _
    rw [Fields.get_insert, if_pos rfl]
  default baseUrl headers core name value found := by
    obtain ⟨header, first, same⟩ := Option.map_eq_some_iff.mp found
    show (List.find? _ (headers ++ _)).map Prod.snd = some value
    rw [List.find?_append, first, ← same]
    rfl

theorem override_splits_model :
    ∃ model call request session,
      completionModel plainCrates plainRig plainClient "private/glm-5-2" = .ok model ∧
      model.sealCall plainCrates plainRig (some "private/kimi-k2") = .ok call ∧
      sealRequest plainCrates call.client () call.url call.plaintext call.headers =
        .ok (request, session) ∧ ¬ OneModel call.sent request := by
  refine ⟨_, _, _, _, rfl, rfl, rfl, ?_⟩
  intro consistent
  obtain ⟨name, named, asked⟩ := consistent
  have header : "private/glm-5-2" = name := utf8_injective (Option.some.inj named)
  have body : enclaveModelId "private/kimi-k2" = enclaveModelId name :=
    Value.string.inj (Option.some.inj asked)
  rw [← header] at body
  exact absurd body (by decide)

/-- Without an override the two agree. -/
theorem one_model_iff_plain :
    ∃ model call request session,
      completionModel plainCrates plainRig plainClient "private/glm-5-2" = .ok model ∧
      model.sealCall plainCrates plainRig none = .ok call ∧
      sealRequest plainCrates call.client () call.url call.plaintext call.headers =
        .ok (request, session) ∧ OneModel call.sent request := by
  have transports := (one_model_iff carries_plain plainRig lawful_plain plainClient ()).2
  refine ⟨_, _, _, _, rfl, rfl, rfl, ?_⟩
  apply (transports "private/glm-5-2" _ none _ _ _ rfl rfl rfl).2.mpr
  intro other absent
  cases absent

end PpqTee.Client
