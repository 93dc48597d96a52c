import PpqTee.Client.Agreement
import PpqTee.Client.Enclave

/-! rig's HTTP backend: what it hands to rig, what of that rig may take for the answer of the
provider, and that it is one channel with the JSON transport. -/

namespace PpqTee.Client
open Ehbp

/-- `http_client::Error`: what rig reports as a response of the provider, and what it reports as a
failure of its own side. -/
inductive HttpError where
  | invalidStatusCodeWithMessage (status : StatusCode) (body : String)
  | ofInstance (e : Error)

def toHttpError : Error → HttpError
  | .enclave status body =>
    match StatusCode.fromU16 status with
    | some status => .invalidStatusCodeWithMessage status body
    | none => .ofInstance (.enclave status body)
  | other => .ofInstance other

/-- `http::Response`. -/
structure HttpResponse (B : Type) where
  status : StatusCode
  headers : HeaderMap
  body : B

/-- `Default`: it is attested to no enclave. -/
instance : Inhabited EhbpHttp := ⟨⟨none⟩⟩

variable (crates : Crates)

def EhbpHttp.send (http : EhbpHttp) (upstream : Upstream crates) (parts : Parts) (body : Bytes) :
    Except HttpError (HttpResponse Bytes) := do
  let client ← http.attested.mapError .ofInstance
  let (decoder, response) ← (rigSendSealed crates client upstream parts body).mapError toHttpError
  let plaintext ← (openBody crates.toCrypto decoder response).mapError toHttpError
  .ok { status := response.status, headers := [], body := plaintext }

/-- The form is not looked at, and there is nothing to send it with. -/
def EhbpHttp.sendMultipart {MultipartForm : Type} (_ : EhbpHttp) (_ : MultipartForm) :
    Except HttpError (HttpResponse Bytes) :=
  .error (.ofInstance (.ehbp "multipart requests are not carried over the sealed transport"))

def EhbpHttp.sendStreaming (http : EhbpHttp) (upstream : Upstream crates) (parts : Parts)
    (body : Bytes) : Except HttpError (HttpResponse (List (Except HttpError Bytes))) := do
  let client ← http.attested.mapError .ofInstance
  let (decoder, response) ← (rigSendSealed crates client upstream parts body).mapError toHttpError
  let plaintext ← (openStream crates.toCrypto decoder response).mapError toHttpError
  .ok
    { status := response.status
      headers := [("content-type", utf8 "text/event-stream")]
      body := plaintext.map fun chunk => chunk.mapError toHttpError }

/-- The enclave refuses: the request was sealed for it and sent, and the answer, which is no
success, is keyed to this request and opens to the very end. -/
def Refuses (http : EhbpHttp) (upstream : Upstream crates) (parts : Parts) (body : Bytes)
    (status : StatusCode) (text : String) : Prop :=
  ∃ client request session response opener out, http.inner = some client ∧ parts.method = "POST" ∧
    sealRequest crates client upstream.entropy parts.uri body parts.headers =
      .ok (request, session) ∧
    upstream.send request = .ok response ∧ Keyed crates session response opener ∧
    response.status = status ∧ status.isSuccess = false ∧
    Complete crates.toCrypto opener response.body out ∧ text = capBody (fromUtf8Lossy out)

variable {crates}

/-- An error that nobody made but this side. -/
def Ours : Error → Prop
  | .enclave _ _ => False
  | _ => True

theorem ours_of_begins {texts : List String} {e : Error} (begins : BeginsWith texts e) : Ours e := by
  cases e with
  | enclave status body => cases begins
  | _ => trivial

theorem toHttpError_ours {e : Error} (ours : Ours e) : toHttpError e = .ofInstance e := by
  cases e with
  | enclave status body => cases ours
  | _ => rfl

/-- Only what the enclave answered becomes an answer of the provider. -/
theorem toHttpError_refusal {e : Error} {status : StatusCode} {text : String} :
    toHttpError e = .invalidStatusCodeWithMessage status text ↔ e = .enclave status.code text := by
  apply Iff.intro
  · intro refusal
    unfold toHttpError at refusal
    split at refusal
    · split at refusal
      · rename_i read
        cases refusal
        rw [StatusCode.code_of_fromU16 read]
      · cases refusal
    · cases refusal
  · intro same
    rw [same]
    unfold toHttpError
    simp only [StatusCode.fromU16_code]

theorem mapError_error {α ε ε' : Type} {result : Except ε α} {f : ε → ε'} {e : ε'} :
    result.mapError f = .error e ↔ ∃ cause, result = .error cause ∧ f cause = e := by
  cases result <;> simp [Except.mapError]

/-- Before a refusal of the provider every step on this side has succeeded. -/
theorem refusal_bind {α β : Type} {first : Result α} (ours : Fails Ours first)
    {next : α → Except HttpError β} {status : StatusCode} {text : String} :
    (first.mapError toHttpError >>= next) = .error (.invalidStatusCodeWithMessage status text) ↔
      ∃ a, first = .ok a ∧ next a = .error (.invalidStatusCodeWithMessage status text) := by
  cases first with
  | error e =>
    apply Iff.intro
    · intro refusal
      have own := toHttpError_ours (ours e rfl)
      have same : toHttpError e = .invalidStatusCodeWithMessage status text :=
        Except.error.inj refusal
      rw [own] at same
      cases same
    · intro steps
      obtain ⟨_, done, _⟩ := steps
      cases done
  | ok a =>
    apply Iff.intro
    · intro refusal
      exact ⟨a, rfl, refusal⟩
    · intro steps
      obtain ⟨_, done, refusal⟩ := steps
      cases done
      exact refusal

theorem sealRequest_ours (client : PpqClient) (entropy : crates.Entropy) (url : String)
    (plaintext : Bytes) (headers : HeaderMap) :
    Fails Ours (sealRequest crates client entropy url plaintext headers) := by
  unfold sealRequest
  simp only
  split
  · exact .error trivial
  · apply Fails.bind ((sealBody_errors _ _ _ _).weaken fun _ => ours_of_begins)
    intro isSealed
    split
    · exact .error trivial
    · exact .ok _

theorem receive_ours (session : ResponseSession) (response : Response) :
    Fails Ours (receive crates session response) := by
  unfold receive
  split
  · split
    · exact .error trivial
    · exact .error trivial
  · refine .bindMapError (fun _ => trivial) fun nonce => .bind ?_ fun opener => .ok _
    exact (opener_errors _ _ _).weaken fun _ => ours_of_begins

/-- Until there is an answer to decrypt, no error is one of the enclave. -/
theorem rigSendSealed_ours (client : PpqClient) (upstream : Upstream crates) (parts : Parts)
    (body : Bytes) : Fails Ours (rigSendSealed crates client upstream parts body) := by
  unfold rigSendSealed sealAndSend
  split
  · exact .error trivial
  · apply Fails.bind (sealRequest_ours _ _ _ _ _)
    intro made
    exact .bindMapError (fun _ => trivial) (receive_ours _)

theorem rigSendSealed_post {client : PpqClient} {upstream : Upstream crates} {parts : Parts}
    {body : Bytes} (post : parts.method = "POST") :
    rigSendSealed crates client upstream parts body =
      sealAndSend crates client upstream parts.uri body parts.headers := by
  unfold rigSendSealed
  rw [if_neg (not_not.mpr post)]
  simp only [foldl_append, List.nil_append]

theorem rigSendSealed_ok {client : PpqClient} {upstream : Upstream crates} {parts : Parts}
    {body : Bytes} {decoder : FrameDecoder} {response : Response} :
    rigSendSealed crates client upstream parts body = .ok (decoder, response) ↔
      parts.method = "POST" ∧ ∃ request session opener,
        sealRequest crates client upstream.entropy parts.uri body parts.headers =
          .ok (request, session) ∧
        upstream.send request = .ok response ∧ Keyed crates session response opener ∧
        decoder = FrameDecoder.new opener := by
  apply Iff.intro
  · intro received
    by_cases post : parts.method = "POST"
    · rw [rigSendSealed_post post] at received
      obtain ⟨⟨request, session⟩, made, rest⟩ := bind_ok.mp received
      obtain ⟨answer, sent, got⟩ := bind_ok.mp rest
      rw [mapError_ok] at sent
      obtain ⟨same, opener, decodes, keyed⟩ := receive_ok got
      rw [same]
      exact ⟨post, request, session, opener, made, sent, keyed, decodes⟩
    · unfold rigSendSealed at received
      rw [if_pos post] at received
      cases received
  · intro steps
    obtain ⟨post, request, session, opener, made, sent, keyed, decodes⟩ := steps
    rw [rigSendSealed_post post]
    unfold sealAndSend
    simp only [made, sent, decodes, ok_bind, Except.mapError]
    exact receive_keyed keyed

theorem EhbpHttp.attested_ours (http : EhbpHttp) : Fails Ours http.attested := by
  unfold EhbpHttp.attested
  exact .okOr trivial

theorem EhbpHttp.attested_ok {http : EhbpHttp} {client : PpqClient} :
    http.attested = .ok client ↔ http.inner = some client := okOr_ok

/-- A default backend has no error of the enclave, so its own is wrapped as any other. -/
theorem attested_toHttpError (http : EhbpHttp) :
    http.attested.mapError HttpError.ofInstance = http.attested.mapError toHttpError := by
  unfold EhbpHttp.attested okOr
  cases http.inner with
  | none => rfl
  | some client => rfl

theorem refuses_of_reader {http : EhbpHttp} {upstream : Upstream crates} {parts : Parts}
    {body : Bytes} {status : StatusCode} {text : String} :
    Refuses crates http upstream parts body status text ↔
      ∃ client, http.attested = .ok client ∧ ∃ exchange,
        rigSendSealed crates client upstream parts body = .ok exchange ∧
        openBody crates.toCrypto exchange.1 exchange.2 = .error (.enclave status.code text) := by
  apply Iff.intro
  · intro refuses
    obtain ⟨client, request, session, response, opener, out, holds, post, made, sent, keyed, same,
      failure, complete, said⟩ := refuses
    refine ⟨client, EhbpHttp.attested_ok.mpr holds, ⟨FrameDecoder.new opener, response⟩,
      rigSendSealed_ok.mpr ⟨post, request, session, opener, made, sent, keyed, rfl⟩, ?_⟩
    rw [← same] at failure
    exact openBody_enclave.mpr ⟨failure, out, complete, by rw [said, ← same]; rfl⟩
  · intro steps
    obtain ⟨client, holds, ⟨decoder, response⟩, received, refused⟩ := steps
    obtain ⟨post, request, session, opener, made, sent, keyed, decodes⟩ :=
      rigSendSealed_ok.mp received
    rw [decodes] at refused
    obtain ⟨failure, out, complete, same⟩ := openBody_enclave.mp refused
    obtain ⟨code, said⟩ := Error.enclave.inj same
    have same : response.status = status := by
      cases status
      cases answered : response.status
      rw [answered] at code
      cases code
      rfl
    exact ⟨client, request, session, response, opener, out, EhbpHttp.attested_ok.mp holds, post,
      made, sent, keyed, same, same ▸ failure, complete, said⟩

theorem reader_refusal {α β : Type} {read : Result α} {f : α → β} {status : StatusCode}
    {text : String} :
    (read.mapError toHttpError >>= fun a => .ok (f a)) =
        .error (.invalidStatusCodeWithMessage status text) ↔
      read = .error (.enclave status.code text) := by
  cases read with
  | ok a => simp [Except.mapError, bind, Except.bind]
  | error e =>
    have same : toHttpError e = .invalidStatusCodeWithMessage status text ↔
        e = .enclave status.code text := toHttpError_refusal
    simpa [Except.mapError, bind, Except.bind] using same

/-- However the exchange is read: if the reader refuses as `open_body` does, rig is told of it. -/
theorem refused_alike {α β : Type} {http : EhbpHttp} {upstream : Upstream crates} {parts : Parts}
    {body : Bytes} {status : StatusCode} {text : String} {read : FrameDecoder × Response → Result α}
    {make : FrameDecoder × Response → α → β}
    (alike : ∀ client exchange, rigSendSealed crates client upstream parts body = .ok exchange →
      (read exchange = .error (.enclave status.code text) ↔
        openBody crates.toCrypto exchange.1 exchange.2 = .error (.enclave status.code text))) :
    (http.attested.mapError HttpError.ofInstance >>= fun client =>
      (rigSendSealed crates client upstream parts body).mapError toHttpError >>= fun exchange =>
        (read exchange).mapError toHttpError >>= fun a => .ok (make exchange a)) =
        .error (.invalidStatusCodeWithMessage status text) ↔
      Refuses crates http upstream parts body status text := by
  rw [refuses_of_reader, attested_toHttpError, refusal_bind http.attested_ours]
  apply exists_congr
  intro client
  rw [refusal_bind (rigSendSealed_ours client upstream parts body)]
  apply and_congr Iff.rfl
  apply exists_congr
  intro exchange
  apply and_congr_right
  intro received
  exact reader_refusal.trans (alike client exchange received)

theorem send_refused {http : EhbpHttp} {upstream : Upstream crates} {parts : Parts} {body : Bytes}
    {status : StatusCode} {text : String} :
    http.send crates upstream parts body = .error (.invalidStatusCodeWithMessage status text) ↔
      Refuses crates http upstream parts body status text :=
  refused_alike fun _ _ _ => Iff.rfl

theorem sendStreaming_refused {http : EhbpHttp} {upstream : Upstream crates} {parts : Parts}
    {body : Bytes} {status : StatusCode} {text : String} :
    http.sendStreaming crates upstream parts body =
        .error (.invalidStatusCodeWithMessage status text) ↔
      Refuses crates http upstream parts body status text := by
  unfold EhbpHttp.sendStreaming
  apply refused_alike
  intro client exchange received
  obtain ⟨_, _, _, opener, _, _, _, decodes⟩ := rigSendSealed_ok.mp received
  rw [decodes]
  exact openStream_enclave

/-- Once a stream has begun the enclave says nothing more about its status. -/
theorem streamItems_ours (crypto : Crypto) (decoder : FrameDecoder)
    (body : List (Except ReqwestError Bytes)) (e : Error)
    (member : .error e ∈ streamItems crypto decoder body) : Ours e := by
  have items := streamItems_drained crypto decoder [] body
  cases result : drained crypto decoder [] body with
  | ok total =>
    rw [result] at items
    obtain ⟨plains, same, _⟩ := items
    rw [same] at member
    simp at member
  | error cause =>
    rw [result] at items
    obtain ⟨plains, same⟩ := items
    have last : e = cause := by
      rw [same] at member
      simpa using member
    rw [last]
    rcases drained_error result with ⟨_, same⟩ | ⟨_, same⟩
    · rw [same]
      trivial
    · rw [same]
      trivial

theorem sendStreaming_ok {http : EhbpHttp} {upstream : Upstream crates} {parts : Parts}
    {body : Bytes} {answer : HttpResponse (List (Except HttpError Bytes))}
    (streams : http.sendStreaming crates upstream parts body = .ok answer) :
    ∃ client decoder response items, http.inner = some client ∧
      rigSendSealed crates client upstream parts body = .ok (decoder, response) ∧
      openStream crates.toCrypto decoder response = .ok items ∧ answer.status = response.status ∧
      answer.body = items.map fun chunk => chunk.mapError toHttpError := by
  obtain ⟨client, holds, rest⟩ := bind_ok.mp streams
  obtain ⟨⟨decoder, response⟩, received, rest⟩ := bind_ok.mp rest
  obtain ⟨items, opened, rest⟩ := bind_ok.mp rest
  rw [mapError_ok] at holds received opened
  cases rest
  exact ⟨client, decoder, response, items, EhbpHttp.attested_ok.mp holds, received, opened, rfl, rfl⟩

/-- rig is told of an answer of the provider exactly when the answer to this request is keyed to its
session, has a status that is no success, and its whole body opened, which an empty one does for
anybody; the text is that of the body as `cap_body` cuts it, and nothing of the kind comes up in the
middle of a stream. -/
theorem provider_response_iff (http : EhbpHttp) (upstream : Upstream crates) (parts : Parts)
    (body : Bytes) (status : StatusCode) (text : String) :
    (http.send crates upstream parts body = .error (.invalidStatusCodeWithMessage status text) ↔
      Refuses crates http upstream parts body status text) ∧
    (http.sendStreaming crates upstream parts body =
        .error (.invalidStatusCodeWithMessage status text) ↔
      Refuses crates http upstream parts body status text) ∧
    ∀ answer, http.sendStreaming crates upstream parts body = .ok answer →
      answer.status.isSuccess = true ∧
        .error (.invalidStatusCodeWithMessage status text) ∉ answer.body := by
  refine ⟨send_refused, sendStreaming_refused, ?_⟩
  intro answer streams
  obtain ⟨client, decoder, response, items, _, _, opened, answered, same⟩ := sendStreaming_ok streams
  cases success : response.status.isSuccess with
  | false =>
    obtain ⟨e, _, refused⟩ := refusals_agree success
    rw [opened] at refused
    cases refused
  | true =>
    apply And.intro
    · rw [answered, success]
    · intro member
      rw [same] at member
      obtain ⟨item, here, wrapped⟩ := List.mem_map.mp member
      obtain ⟨e, failed, refusal⟩ := mapError_error.mp wrapped
      rw [openStream_success success] at opened
      cases opened
      rw [failed] at here
      have ours := streamItems_ours _ _ _ e (List.mem_of_mem_filter here)
      rw [toHttpError_ours ours] at refusal
      cases refusal

end PpqTee.Client
