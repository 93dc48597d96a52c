import PpqTee.Client.Reading
import PpqTee.Client.Rig

/-! What a completion is made of: nothing but the plaintexts of frames that the party with the
key of this request sealed. -/

namespace PpqTee.Client
open Ehbp

variable {crates : Crates}

/-- The response carries a nonce of 32 bytes, from which the opener was derived. -/
structure Keyed (crates : Crates) (session : ResponseSession) (response : Response)
    (opener : FrameOpener) : Prop where
  derived : ∃ header nonceHex nonce,
    HeaderMap.get response.headers "ehbp-response-nonce" = some header ∧
    crates.headerValueToStr header = some nonceHex ∧ crates.hexDecode nonceHex = .ok nonce ∧
    nonce.length = 32 ∧
    derive crates.toCrypto session.exportedSecret session.enc nonce = .ok (opener.cipher, opener.base)
  fresh : opener.seq = 0

/-- The request of this very call was sealed and sent, and got a response with a success status
that is keyed to its session. -/
def Answered (crates : Crates) (client : PpqClient) (upstream : Upstream crates) (body : Value)
    (streams : Bool) (response : Response) (opener : FrameOpener) : Prop :=
  response.status.isSuccess = true ∧ ∃ call request session,
    jsonCall crates client body streams = .ok call ∧
    sealRequest crates client upstream.entropy call.url call.plaintext call.headers =
      .ok (request, session) ∧
    upstream.send request = .ok response ∧ Keyed crates session response opener

/-- The value is the JSON of what the frames of a whole body decrypted to. -/
def AuthenticCompletion (crates : Crates) (client : PpqClient) (upstream : Upstream crates)
    (body v : Value) : Prop :=
  ∃ response opener cts plains, Answered crates client upstream body false response opener ∧
    readAll response.body = .ok (wire cts) ∧ Decrypted crates.toCrypto opener cts plains ∧
    plains ≠ [] ∧ crates.jsonFromSlice plains.flatten = .ok v

/-- The bytes of the stream are what the first frames of a body decrypted to. -/
def AuthenticStream (crates : Crates) (client : PpqClient) (upstream : Upstream crates)
    (body : Value) (items : List (Result Bytes)) : Prop :=
  ∃ response opener cts plains rest, Answered crates client upstream body true response opener ∧
    arrived response.body = wire cts ++ rest ∧ Decrypted crates.toCrypto opener cts plains ∧
    received items = plains.flatten

theorem derive_ok {crypto : Crypto} {secret enc : Vector UInt8 32} {nonce : Bytes}
    {pair : Key × Nonce} (derived : derive crypto secret enc nonce = .ok pair) :
    nonce.length = RESPONSE_NONCE_LEN := by
  unfold derive at derived
  by_contra other
  rw [if_pos other] at derived
  cases derived

theorem opener_ok {crypto : Crypto} {session : ResponseSession} {nonce : Bytes}
    {opener : FrameOpener} (made : session.opener crypto nonce = .ok opener) :
    derive crypto session.exportedSecret session.enc nonce = .ok (opener.cipher, opener.base) ∧
      opener.seq = 0 := by
  obtain ⟨⟨cipher, base⟩, derived, same⟩ := bind_ok.mp made
  cases same
  exact ⟨derived, rfl⟩

theorem receive_ok {session : ResponseSession} {response response' : Response}
    {decoder : FrameDecoder} (received : receive crates session response = .ok (decoder, response')) :
    response' = response ∧ ∃ opener, decoder = FrameDecoder.new opener ∧
      Keyed crates session response opener := by
  unfold receive at received
  split at received
  · split at received <;> cases received
  · rename_i nonceHex present
    obtain ⟨header, carried, text⟩ := Option.bind_eq_some_iff.mp present
    simp only [bind_ok, mapError_ok] at received
    obtain ⟨nonce, decoded, opener, made, same⟩ := received
    cases same
    have opened := opener_ok made
    exact ⟨rfl, opener, rfl, ⟨header, nonceHex, nonce, carried, text, decoded, derive_ok opened.1,
      opened.1⟩, opened.2⟩

theorem receive_keyed {session : ResponseSession} {response : Response} {opener : FrameOpener}
    (keyed : Keyed crates session response opener) :
    receive crates session response = .ok (FrameDecoder.new opener, response) := by
  obtain ⟨header, nonceHex, nonce, carried, text, decoded, _, derived⟩ := keyed.derived
  have present : (HeaderMap.get response.headers "ehbp-response-nonce").bind
      crates.headerValueToStr = some nonceHex := by
    rw [carried]
    exact text
  have made : session.opener crates.toCrypto nonce = .ok opener := by
    unfold ResponseSession.opener
    rw [derived, ok_bind]
    exact congrArg Except.ok (by rw [← keyed.fresh])
  unfold receive
  rw [present]
  simp only [decoded, made, Except.mapError, ok_bind]

/-- What a call hands to its reader came in answer to its own request. -/
theorem perform_answered {client : PpqClient} {upstream : Upstream crates} {body : Value}
    {streams : Bool} {call : SealCall} {decoder : FrameDecoder} {response : Response}
    (made : jsonCall crates client body streams = .ok call)
    (performed : call.perform crates upstream = .ok (decoder, response)) :
    ∃ opener, decoder = FrameDecoder.new opener ∧ (response.status.isSuccess = true →
      Answered crates client upstream body streams response opener) := by
  obtain ⟨_, _, _, _, _, _, ofClient, _⟩ := jsonCall_ok made
  simp only [SealCall.perform, sealAndSend, bind_ok, mapError_ok] at performed
  obtain ⟨⟨request, session⟩, isSealed, answer, delivered, got⟩ := performed
  obtain ⟨same, opener, decodes, keyed⟩ := receive_ok got
  rw [ofClient] at isSealed
  subst same
  refine ⟨opener, decodes, ?_⟩
  intro success
  exact ⟨success, call, request, session, made, isSealed, delivered, keyed⟩

theorem complete_decrypted {crypto : Crypto} {opener : FrameOpener}
    {body : List (Except ReqwestError Bytes)} {out : Bytes}
    (complete : Complete crypto opener body out) :
    ∃ cts plains, readAll body = .ok (wire cts) ∧ Decrypted crypto opener cts plains ∧
      out = plains.flatten := by
  obtain ⟨bytes, frames, opener', delivered, scanned, same⟩ := complete
  have reads := Incremental.Scanner.reads_of_scan scanned
  obtain ⟨whole, decrypted⟩ := reads_wire reads
  rw [List.append_nil] at whole
  rw [plaintext_eq_emitted (plain_of_skipped reads)] at same
  exact ⟨_, emitted frames, by rw [delivered, whole], decrypted, same⟩

theorem chatCompletion_ok (rejectsEmpty : ∀ v, crates.jsonFromSlice [] ≠ .ok v)
    {client : PpqClient} {upstream : Upstream crates} {body v : Value}
    (answered : chatCompletion crates client upstream body = .ok v) :
    AuthenticCompletion crates client upstream body v := by
  simp only [chatCompletion_call, bind_ok, mapError_ok] at answered
  obtain ⟨call, made, ⟨decoder, response⟩, performed, out, opened, parsed⟩ := answered
  obtain ⟨opener, decodes, ofCall⟩ := perform_answered made performed
  subst decodes
  obtain ⟨success, complete⟩ := openBody_ok.mp opened
  obtain ⟨cts, plains, delivered, decrypted, same⟩ := complete_decrypted complete
  subst same
  refine ⟨response, opener, cts, plains, ofCall success, delivered, decrypted, ?_, parsed⟩
  intro none
  rw [none] at parsed
  exact rejectsEmpty v parsed

theorem openStream_ok {crypto : Crypto} {decoder : FrameDecoder} {response : Response}
    {items : List (Result Bytes)} (opened : openStream crypto decoder response = .ok items) :
    response.status.isSuccess = true ∧
      items = (streamItems crypto decoder response.body).filter nonEmpty := by
  cases success : response.status.isSuccess with
  | false =>
    rw [openStream_failure success] at opened
    obtain ⟨out, _, never⟩ := bind_ok.mp opened
    cases never
  | true =>
    rw [openStream_success success] at opened
    exact ⟨rfl, (Except.ok.inj opened).symm⟩

theorem chatCompletionStream_ok {client : PpqClient} {upstream : Upstream crates} {body : Value}
    {items : List (Result Bytes)}
    (answered : chatCompletionStream crates client upstream body = .ok items) :
    AuthenticStream crates client upstream body items := by
  simp only [chatCompletionStream_call, bind_ok] at answered
  obtain ⟨call, made, ⟨decoder, response⟩, performed, opened⟩ := answered
  obtain ⟨opener, decodes, ofCall⟩ := perform_answered made performed
  subst decodes
  obtain ⟨success, same⟩ := openStream_ok opened
  obtain ⟨frames, opener', rest, reads, handed⟩ :=
    streamItems_reads (frameScanner_nil crates.toCrypto opener) response.body
  obtain ⟨whole, decrypted⟩ := reads_wire reads
  refine ⟨response, opener, _, emitted frames, rest, ofCall success, whole, decrypted, ?_⟩
  rw [same, received_filter, ← plaintext_eq_emitted (plain_of_skipped reads)]
  exact handed

/-! No failure is reported by an error with a success status. -/

theorem sealRequest_fails (client : PpqClient) (entropy : crates.Entropy) (url : String)
    (plaintext : Bytes) (headers : HeaderMap) :
    Fails NoSuccess (sealRequest crates client entropy url plaintext headers) := by
  unfold sealRequest
  simp only
  split
  · exact .error trivial
  · apply Fails.bind ((sealBody_errors _ _ _ _).weaken fun _ => BeginsWith.noSuccess)
    intro isSealed
    split
    · exact .error trivial
    · exact .ok _

theorem receive_fails (session : ResponseSession) (response : Response) :
    Fails NoSuccess (receive crates session response) := by
  unfold receive
  split
  · split
    · exact .error trivial
    · exact .error trivial
  · refine .bindMapError (fun _ => trivial) fun nonce => .bind ?_ fun opener => .ok _
    exact (opener_errors _ _ _).weaken fun _ => BeginsWith.noSuccess

theorem jsonCall_fails (client : PpqClient) (body : Value) (streams : Bool) :
    Fails NoSuccess (jsonCall crates client body streams) := by
  unfold jsonCall takeModel routingHeaders
  apply Fails.bind
  · split
    · exact .error trivial
    · split
      · exact .error trivial
      · exact .ok _
  · intro taken
    refine .bindMapError (fun _ => trivial) fun plaintext => .bind ?_ fun headers => .ok _
    split
    · exact .error trivial
    · exact .ok _

theorem sealCall_fails (call : SealCall) (upstream : Upstream crates) :
    Fails NoSuccess (call.perform crates upstream) := by
  unfold SealCall.perform sealAndSend
  apply Fails.bind (sealRequest_fails _ _ _ _ _)
  intro sent
  exact .bindMapError (fun _ => trivial) (receive_fails _)

theorem openBody_fails (crypto : Crypto) (opener : FrameOpener) (response : Response) :
    Fails NoSuccess (openBody crypto (FrameDecoder.new opener) response) := by
  intro e failed
  cases e with
  | enclave code text =>
    obtain ⟨failure, out, _, same⟩ := openBody_enclave.mp failed
    have code : code = response.status.code := by
      unfold enclaveError at same
      exact (Error.enclave.inj same).1
    subst code
    intro success
    simp [StatusCode.isSuccess, success] at failure
  | _ => trivial

theorem openStream_fails (crypto : Crypto) (opener : FrameOpener) (response : Response) :
    Fails NoSuccess (openStream crypto (FrameDecoder.new opener) response) := by
  intro e failed
  cases e with
  | enclave code text =>
    exact openBody_fails crypto opener response _ (openStream_enclave.mp failed)
  | _ => trivial

theorem chatCompletion_fails (client : PpqClient) (upstream : Upstream crates) (body : Value) :
    Fails NoSuccess (chatCompletion crates client upstream body) := by
  rw [chatCompletion_call]
  apply Fails.bindOf (jsonCall_fails client body false)
  intro call made
  apply Fails.bindOf (sealCall_fails call upstream)
  intro exchange performed
  obtain ⟨decoder, response⟩ := exchange
  obtain ⟨opener, decodes, _⟩ := perform_answered made performed
  subst decodes
  exact .bind (openBody_fails _ opener response) fun out => .mapError fun _ => trivial

theorem chatCompletionStream_fails (client : PpqClient) (upstream : Upstream crates)
    (body : Value) : Fails NoSuccess (chatCompletionStream crates client upstream body) := by
  rw [chatCompletionStream_call]
  apply Fails.bindOf (jsonCall_fails client body true)
  intro call made
  apply Fails.bindOf (sealCall_fails call upstream)
  intro exchange performed
  obtain ⟨decoder, response⟩ := exchange
  obtain ⟨opener, decodes, _⟩ := perform_answered made performed
  subst decodes
  exact openStream_fails _ opener response

end PpqTee.Client
