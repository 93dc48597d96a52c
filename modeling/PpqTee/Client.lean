import PpqTee.Attest.Types
import PpqTee.Ehbp.Reference
import PpqTee.Text

/-! The attested client: every request is sealed to the key the hardware proved, and a
response is read through the frame decoder or not at all. -/

namespace PpqTee.Client
open Ehbp

def MAX_ERROR_BODY_BYTES : Nat := 4096

/-- Cut a body down to `MAX_ERROR_BODY_BYTES`, noting it in the text when it happens. -/
def capBody (body : String) : String :=
  if body.utf8ByteSize ≤ MAX_ERROR_BODY_BYTES then body
  else
    let cut := boundaryBelow body.toList MAX_ERROR_BODY_BYTES
    String.ofList (truncate body.toList cut (isCharBoundary_boundaryBelow _ _)) ++
      s!"... (truncated to {MAX_ERROR_BODY_BYTES} bytes)"

/-- Header names are kept in lower case, as `http` normalises them. -/
abbrev HeaderMap := List (String × Bytes)

namespace HeaderMap

/-- Replaces every value the name had. -/
def insert (headers : HeaderMap) (name : String) (value : Bytes) : HeaderMap :=
  headers.filter (fun header => header.1 ≠ name) ++ [(name, value)]

def get (headers : HeaderMap) (name : String) : Option Bytes :=
  (headers.find? fun header => header.1 = name).map Prod.snd

theorem get_cons (name : String) (value : Bytes) (rest : HeaderMap) (other : String) :
    get ((name, value) :: rest) other = if name = other then some value else get rest other := by
  unfold get
  by_cases same : name = other <;> simp [same]

theorem insert_cons (header : String × Bytes) (rest : HeaderMap) (name : String) (value : Bytes) :
    insert (header :: rest) name value =
      if header.1 = name then insert rest name value else header :: insert rest name value := by
  unfold insert
  by_cases same : header.1 = name <;> simp [same]

theorem get_insert (headers : HeaderMap) (name other : String) (value : Bytes) :
    get (insert headers name value) other =
      if other = name then some value else get headers other := by
  induction headers with
  | nil =>
    show get [(name, value)] other = _
    rw [get_cons]
    exact if_congr eq_comm rfl rfl
  | cons header rest ih =>
    obtain ⟨k, v⟩ := header
    rw [insert_cons]
    by_cases same : k = name
    · rw [if_pos same, ih, get_cons, same]
      by_cases asked : name = other <;> simp [asked, eq_comm]
    · rw [if_neg same, get_cons, get_cons, ih]
      by_cases asked : k = other
      · rw [if_pos asked, if_pos asked, if_neg (asked ▸ same)]
      · rw [if_neg asked, if_neg asked]

end HeaderMap

structure Request where
  url : String
  headers : HeaderMap
  body : Bytes
  deriving DecidableEq, Repr

/-- A response as the transport delivers it: its body is the chunks and errors that arrive
before the end of the stream. -/
structure Response where
  status : StatusCode
  headers : HeaderMap
  body : List (Except ReqwestError Bytes)

/-- The crates the client is built on. Hex is always a legal header value. -/
structure Crates extends Crypto, Hpke, Hex, SerdeJson where
  headerValueFromStr : String → Option Bytes
  headerValueToStr : Bytes → Option String
  hexIsHeaderValue : ∀ bytes, (headerValueFromStr (hexEncode bytes)).isSome

/-- What one attempt meets: the randomness it draws, and what `reqwest` makes of the request it
sends, redirects followed. -/
structure Upstream (crates : Crates) where
  entropy : crates.Entropy
  send : Request → Except ReqwestError Response

structure PpqClient where
  baseUrl : String
  apiKey : String
  attestation : Attest.Attestation
  deriving DecidableEq, Repr

def enclaveModelId (id : String) : String := (stripPrefix id "private/").getD id

def CHAT_COMPLETIONS_PATH : String := "/private/v1/chat/completions"

variable (crates : Crates)

def routingHeaders (model : String) : Result HeaderMap :=
  match crates.headerValueFromStr model with
  | none => .error (.invalidModelId model)
  | some value =>
    .ok (HeaderMap.insert (HeaderMap.insert [] "x-private-model" value) "x-query-source" (utf8 "api"))

/-- The first half of `seal_and_send`: check the URL, seal the plaintext and put the request
together. -/
def sealRequest (client : PpqClient) (entropy : crates.Entropy) (url : String) (plaintext : Bytes)
    (headers : HeaderMap) : Result (Request × ResponseSession) :=
  let base := trimEndMatches client.baseUrl '/'
  -- the boundary has to be a path separator, or `base.example.com` would pass
  if ¬ base.toList <+: url.toList ∨ (url.toList.drop base.toList.length).head? ≠ some '/' then
    .error (.ehbp
      s!"refusing to seal a request to {url}, which is outside the configured base URL {base}")
  else do
    let sealed ← sealBody crates.toHpke entropy client.attestation.hpkePublicKey plaintext
    match crates.headerValueFromStr s!"Bearer {client.apiKey}" with
    | none => .error (.attestation "API key is not a valid header value")
    | some bearer =>
      let encHeader := (crates.headerValueFromStr (crates.hexEncode sealed.enc.toList)).get
        (crates.hexIsHeaderValue _)
      let headers := HeaderMap.insert headers "authorization" bearer
      let headers := HeaderMap.insert headers "content-type" (utf8 "application/json")
      let headers := HeaderMap.insert headers "ehbp-encapsulated-key" encHeader
      .ok ({ url, headers, body := sealed.body }, sealed.session)

def readAll : List (Except ReqwestError Bytes) → Except ReqwestError Bytes
  | [] => .ok []
  | chunk :: rest => do
    let bytes ← chunk
    let later ← readAll rest
    .ok (bytes ++ later)

/-- `response.text().await.unwrap_or_default()`. -/
def textOrDefault (response : Response) : String :=
  match readAll response.body with
  | .ok bytes => fromUtf8Lossy bytes
  | .error _ => ""

/-- The second half of `seal_and_send`: without a nonce there is nothing to decrypt, and the
body is never taken for enclave output. -/
def receive (session : ResponseSession) (response : Response) : Result (FrameDecoder × Response) :=
  match (HeaderMap.get response.headers "ehbp-response-nonce").bind crates.headerValueToStr with
  | none =>
    if response.status.isSuccess then .error (.ehbp "2xx response without Ehbp-Response-Nonce")
    else .error (.unauthenticatedUpstream response.status.code (capBody (textOrDefault response)))
  | some nonceHex => do
    let nonce ← (crates.hexDecode nonceHex).mapError fun e => .ehbp s!"response nonce is not hex: {e}"
    let opener ← session.opener crates.toCrypto nonce
    .ok (FrameDecoder.new opener, response)

/-- `seal_and_send`, the single place a request body is encrypted. -/
def sealAndSend (client : PpqClient) (upstream : Upstream crates) (url : String) (plaintext : Bytes)
    (headers : HeaderMap) : Result (FrameDecoder × Response) := do
  let (request, session) ← sealRequest crates client upstream.entropy url plaintext headers
  let response ← (upstream.send request).mapError .http
  receive crates session response

section Readers

variable (crypto : Crypto)

def drain : FrameDecoder → Bytes → List (Except ReqwestError Bytes) → Result (Bytes × FrameDecoder)
  | decoder, out, [] => .ok (out, decoder)
  | decoder, out, chunk :: rest => do
    let chunk ← chunk.mapError .http
    let (result, decoder) := decoder.push crypto chunk
    let plain ← result
    drain decoder (out ++ plain) rest

def enclaveError (status : StatusCode) (out : Bytes) : Error :=
  .enclave status.code (capBody (fromUtf8Lossy out))

def openBody (decoder : FrameDecoder) (response : Response) : Result Bytes := do
  let (out, decoder) ← drain crypto decoder [] response.body
  decoder.finish
  if response.status.isSuccess then .ok out
  else .error (enclaveError response.status out)

/-- The unfolding of the stream: it ends after its first error, and at the end of the transport
only a clean frame boundary ends it without one. -/
def streamItems : FrameDecoder → List (Except ReqwestError Bytes) → List (Result Bytes)
  | decoder, [] =>
    match decoder.finish with
    | .ok () => []
    | .error e => [.error e]
  | _, .error e :: _ => [.error (.http e)]
  | decoder, .ok chunk :: rest =>
    match decoder.push crypto chunk with
    | (.ok plain, decoder) => .ok plain :: streamItems decoder rest
    | (.error e, _) => [.error e]

/-- `try_filter` on `!plain.is_empty()`. -/
def nonEmpty : Result Bytes → Bool
  | .ok plain => !plain.isEmpty
  | .error _ => true

def openStream (decoder : FrameDecoder) (response : Response) : Result (List (Result Bytes)) :=
  if ¬ response.status.isSuccess then do
    let (out, decoder) ← drain crypto decoder [] response.body
    decoder.finish
    .error (enclaveError response.status out)
  else .ok ((streamItems crypto decoder response.body).filter nonEmpty)

end Readers

/-- Rewrite `model` to the enclave-internal id and return the user-facing one, with the fields
of the rewritten object. -/
def takeModel (body : Value) : Result (String × Fields) :=
  match body.asObject with
  | none => .error (.ehbp "request body is not a JSON object")
  | some fields =>
    match (Fields.get fields "model").bind Value.asStr with
    | none => .error (.ehbp "request has no model")
    | some userFacing =>
      .ok (userFacing, Fields.insert fields "model" (.string (enclaveModelId userFacing)))

def sendSealed (client : PpqClient) (upstream : Upstream crates) (body : Value) (model : String) :
    Result (FrameDecoder × Response) := do
  let plaintext ← (crates.jsonToVec body).mapError .json
  let headers ← routingHeaders crates model
  sealAndSend crates client upstream (client.baseUrl ++ CHAT_COMPLETIONS_PATH) plaintext headers

def chatCompletion (client : PpqClient) (upstream : Upstream crates) (body : Value) :
    Result Value := do
  let (model, fields) ← takeModel body
  let (decoder, response) ← sendSealed crates client upstream (.object fields) model
  let out ← openBody crates.toCrypto decoder response
  (crates.jsonFromSlice out).mapError .json

def chatCompletionStream (client : PpqClient) (upstream : Upstream crates) (body : Value) :
    Result (List (Result Bytes)) := do
  let (model, fields) ← takeModel body
  let fields := Fields.insert fields "stream" (.bool true)
  let (decoder, response) ← sendSealed crates client upstream (.object fields) model
  openStream crates.toCrypto decoder response

/-! The requests that `seal_and_send` puts together. -/

/-- The guard: a path below the base URL, whatever slashes end that. -/
def PpqClient.Allows (client : PpqClient) (url : String) : Prop :=
  (trimEndMatches client.baseUrl '/').toList <+: url.toList ∧
    (url.toList.drop (trimEndMatches client.baseUrl '/').toList.length).head? = some '/'

/-- The headers of the caller under those of the transport. -/
def sealedHeaders (headers : HeaderMap) (bearer encHeader : Bytes) : HeaderMap :=
  HeaderMap.insert
    (HeaderMap.insert (HeaderMap.insert headers "authorization" bearer)
      "content-type" (utf8 "application/json"))
    "ehbp-encapsulated-key" encHeader

theorem get_sealedHeaders (headers : HeaderMap) (bearer encHeader : Bytes) :
    HeaderMap.get (sealedHeaders headers bearer encHeader) "x-private-model" =
      HeaderMap.get headers "x-private-model" := by
  unfold sealedHeaders
  rw [HeaderMap.get_insert, if_neg (by decide), HeaderMap.get_insert, if_neg (by decide),
    HeaderMap.get_insert, if_neg (by decide)]

section Requests

variable {crates} {client : PpqClient} {entropy : crates.Entropy} {url : String}
  {plaintext : Bytes} {headers : HeaderMap} {request : Request} {session : ResponseSession}

theorem PpqClient.allows_iff : client.Allows url ↔
    ¬ (¬ (trimEndMatches client.baseUrl '/').toList <+: url.toList ∨
      (url.toList.drop (trimEndMatches client.baseUrl '/').toList.length).head? ≠ some '/') := by
  rw [not_or, not_not, not_not]
  rfl

theorem sealRequest_ok :
    sealRequest crates client entropy url plaintext headers = .ok (request, session) ↔
      client.Allows url ∧ ∃ isSealed bearer encHeader,
        sealBody crates.toHpke entropy client.attestation.hpkePublicKey plaintext = .ok isSealed ∧
        crates.headerValueFromStr s!"Bearer {client.apiKey}" = some bearer ∧
        crates.headerValueFromStr (crates.hexEncode isSealed.enc.toList) = some encHeader ∧
        session = isSealed.session ∧
        request = ⟨url, sealedHeaders headers bearer encHeader, isSealed.body⟩ := by
  unfold sealRequest
  simp only
  apply Iff.intro
  · intro made
    split at made
    · cases made
    · rename_i allows
      obtain ⟨isSealed, seals, rest⟩ := bind_ok.mp made
      split at rest
      · cases rest
      · rename_i bearer legal
        cases rest
        exact ⟨PpqClient.allows_iff.mpr allows, isSealed, bearer, _, seals, legal,
          (Option.some_get _).symm, rfl, rfl⟩
  · intro sends
    obtain ⟨allows, isSealed, bearer, encHeader, seals, legal, encoded, same, same'⟩ := sends
    rw [if_neg (PpqClient.allows_iff.mp allows), same, same']
    simp only [seals, legal, encoded, ok_bind, Option.get_some]
    rfl

end Requests

end PpqTee.Client
