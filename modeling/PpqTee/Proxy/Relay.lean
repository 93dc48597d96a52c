import PpqTee.Client.Cap
import PpqTee.Proxy.Fidelity

/-! What reaches the API client of an error that the enclave sealed: through the frame decoder,
the cap on error bodies, the mapping of errors and a second parse. -/

namespace PpqTee.Proxy
open Client Ehbp

variable {crates : Crates}

theorem readReply_refused {opener : FrameOpener} {response : Response} {out : Bytes}
    (refused : response.status.isSuccess = false)
    (complete : Complete crates.toCrypto opener response.body out) (streams : Bool) :
    readReply crates streams (FrameDecoder.new opener) response =
      .error (enclaveError response.status out) := by
  have body : openBody crates.toCrypto (FrameDecoder.new opener) response =
      .error (enclaveError response.status out) :=
    openBody_enclave.mpr ⟨refused, out, complete, rfl⟩
  unfold readReply
  cases streams with
  | true =>
    have stream : openStream crates.toCrypto (FrameDecoder.new opener) response =
        .error (enclaveError response.status out) := openStream_enclave.mpr body
    rw [if_pos rfl, stream]
    rfl
  | false =>
    rw [if_neg Bool.false_ne_true, body]
    rfl

/-- What `ApiError::Enclave` is answered with. -/
theorem answer_enclave (debugStr : String → String) (status : StatusCode) (text : String) :
    answer crates debugStr (.error (.enclave status.code text)) =
      (ApiError.enclave status text).intoResponse crates := by
  unfold answer ApiError.ofError
  simp only [StatusCode.fromU16_code]

/-- What is cut ends in a parenthesis, so it is no JSON. -/
theorem capBody_long {text : String} (long : ¬ text.utf8ByteSize ≤ MAX_ERROR_BODY_BYTES) :
    ∃ bytes, utf8 (capBody text) = bytes ++ [41] := by
  have last : utf8 " bytes)" = utf8 " bytes" ++ [41] := by decide
  have note : utf8 truncationNote =
      (utf8 ("... (truncated to " ++ toString MAX_ERROR_BODY_BYTES) ++ utf8 " bytes") ++ [41] := by
    rw [List.append_assoc, ← last, ← utf8_append]
    rfl
  rw [capBody_cut (Nat.not_le.mp long), utf8_append, note, ← List.append_assoc]
  exact ⟨_, rfl⟩

/-- The API client gets this status and this value. -/
def Intact (crates : Crates) (debugStr : String → String) (status : StatusCode) (v : Value)
    (outcome : Result Reply) : Prop :=
  (answer crates debugStr outcome).status = status ∧
    (answer crates debugStr outcome).body = .json v

/-- The error body is within the cap. A longer one survives only if it is what the proxy makes of
its own beginning. -/
def Survives (text : String) (v : Value) : Prop :=
  text.utf8ByteSize ≤ MAX_ERROR_BODY_BYTES ∨
    v = errorObject (capBody text) "upstream_error" (some "enclave_error")

/-- Within the cap the second parse gives what the first gave; a text that was cut has none. -/
theorem intact_iff (rejectsParen : ∀ bytes v, crates.jsonFromSlice (bytes ++ [41]) ≠ .ok v)
    (debugStr : String → String) (status : StatusCode) {text : String} {v : Value}
    (parsed : crates.jsonFromSlice (utf8 text) = .ok v) :
    Intact crates debugStr status v (.error (enclaveError status (utf8 text))) ↔
      Survives text v := by
  unfold Intact enclaveError
  rw [fromUtf8Lossy_utf8, answer_enclave, ApiError.intoResponse]
  by_cases short : text.utf8ByteSize ≤ MAX_ERROR_BODY_BYTES
  · rw [capBody_short short, parsed]
    exact ⟨fun _ => .inl short, fun _ => ⟨rfl, rfl⟩⟩
  · obtain ⟨bytes, cut⟩ := capBody_long short
    cases again : crates.jsonFromSlice (utf8 (capBody text)) with
    | ok v' =>
      rw [cut] at again
      exact absurd again (rejectsParen bytes v')
    | error e =>
      constructor
      · intro intact
        exact .inr (AnswerBody.json.inj intact.2).symm
      · intro survives
        rcases survives with within | same
        · exact absurd within short
        · exact ⟨rfl, congrArg AnswerBody.json same.symm⟩

/-- The upstream answers an attempt with a sealed response that is no success: all its frames
open, it ends between two of them, and its plaintext is the text of a JSON value. -/
structure Refusal (crates : Crates) (client : PpqClient) (upstream : Upstream crates)
    (fields : Fields) (model : String) (status : StatusCode) (text : String) (v : Value) :
    Prop where
  named : Fields.get fields "model" = some (.string model)
  failure : status.isSuccess = false
  isSealed : ∃ request session response opener,
    sealAttempt crates client upstream.entropy fields model = .ok (request, session) ∧
    upstream.send request = .ok response ∧ response.status = status ∧
    Keyed crates session response opener ∧
    Complete crates.toCrypto opener response.body (utf8 text)
  parsed : crates.jsonFromSlice (utf8 text) = .ok v

/-- Streaming or not, the client reports a refusal as an error of the enclave. -/
theorem perform_refused {client : PpqClient} {upstream : Upstream crates} {fields : Fields}
    {model : String} {status : StatusCode} {text : String} {v : Value}
    (refusal : Refusal crates client upstream fields model status text v) :
    (Call.ofFields fields).perform crates client upstream =
      .error (enclaveError status (utf8 text)) := by
  obtain ⟨request, session, response, opener, attempt, sent, same, keyed, complete⟩ :=
    refusal.isSealed
  subst same
  rw [perform_ofFields refusal.named, attempt, ok_bind]
  simp only [sent, Except.mapError, ok_bind, receive_keyed keyed]
  exact readReply_refused refusal.failure complete (asked fields)

/-- Request `i` was performed on a client of its own and met such a refusal. -/
def Refused (crates : Crates) (i : Nat) (trace : List (Event PpqClient Call Reply))
    (status : StatusCode) (text : String) (v : Value) : Prop :=
  ∃ m fields model cached upstream,
    (m.tasks i).runs = some (Call.ofFields fields, cached) ∧
    (m, .finish i ((Call.ofFields fields).perform crates cached.client.value upstream)) ∈ trace ∧
    Refusal crates cached.client.value upstream fields model status text v

/-- The proxy has answered request `i` with the status and the value. -/
def Relays (crates : Crates) (debugStr : String → String) (s : State PpqClient Call Reply) (i : Nat)
    (status : StatusCode) (v : Value) : Prop :=
  ∃ outcome, s.tasks i = .done outcome ∧ Intact crates debugStr status v outcome

/-- Every error that the enclave seals reaches the API client. -/
def RelaysEverything (crates : Crates) (debugStr : String → String) : Prop :=
  ∀ (attester : Builder) (policy : ReattestPolicy) (now : Nat) (client : PpqClient)
    (trace : List (Event PpqClient Call Reply)) (s : State PpqClient Call Reply),
    Transition.Run (step policy) (Attested.new now client) trace s →
    (∀ e ∈ trace, Served crates attester e) → ∀ i status text v,
    Refused crates i trace status text v → Relays crates debugStr s i status v

section Runs

variable {policy : ReattestPolicy} {now : Nat} {client : PpqClient} {i : Nat}
  {trace : List (Event PpqClient Call Reply)} {s : State PpqClient Call Reply}
  {status : StatusCode} {text : String} {v : Value}

/-- A refusal is the result of its request: the enclave has answered, so nothing is retried. -/
theorem done_refused (run : Transition.Run (step policy) (Attested.new now client) trace s)
    (refused : Refused crates i trace status text v) :
    s.tasks i = .done (.error (enclaveError status (utf8 text))) := by
  obtain ⟨m, fields, model, cached, upstream, _, member, refusal⟩ := refused
  rw [perform_refused refusal] at member
  apply done_of_finish run member
  intro err same
  cases same
  rfl

theorem Refused.parsed (refused : Refused crates i trace status text v) :
    crates.jsonFromSlice (utf8 text) = .ok v := by
  obtain ⟨_, _, _, _, _, _, _, refusal⟩ := refused
  exact refusal.parsed

/-- An error that the enclave sealed reaches the API client, with its status and as the JSON value
it is, exactly when its text is within the cap, or is the text of what the cut is wrapped in. -/
theorem enclave_error_relayed_iff
    (rejectsParen : ∀ bytes v, crates.jsonFromSlice (bytes ++ [41]) ≠ .ok v)
    (debugStr : String → String)
    (run : Transition.Run (step policy) (Attested.new now client) trace s)
    (refused : Refused crates i trace status text v) :
    Relays crates debugStr s i status v ↔ Survives text v := by
  have done := done_refused run refused
  rw [← intact_iff rejectsParen debugStr status refused.parsed]
  constructor
  · intro relayed
    obtain ⟨outcome, settled, intact⟩ := relayed
    rw [done] at settled
    cases settled
    exact intact
  · intro intact
    exact ⟨_, done, intact⟩

end Runs

/-! An enclave that refuses a request with a message of so many letters. -/

def tooManyRequests : StatusCode := ⟨429, by decide⟩

def letters (n : Nat) : String := String.ofList (List.replicate n 'a')

def complaintHead : String := "\x7b\"error\":\x7b\"message\":\""

def complaintTail : String := "\"\x7d\x7d"

def complaint (n : Nat) : String := complaintHead ++ (letters n ++ complaintTail)

def complaintValue (n : Nat) : Value :=
  .object [("error", .object [("message", .string (letters n))])]

def complaintCrates (n : Nat) : Crates :=
  { clearCrates with
    jsonFromSlice := fun bytes =>
      if bytes = utf8 (complaint n) then .ok (complaintValue n) else knownJson bytes }

theorem utf8_letters (n : Nat) : utf8 (letters n) = List.replicate n 97 := by
  have encoded : String.utf8EncodeChar 'a' = [97] := by decide
  rw [utf8_eq_flatMap, letters, String.toList_ofList, List.flatMap_replicate, encoded,
    List.flatten_replicate_singleton]

theorem utf8_complaint (n : Nat) : utf8 (complaint n) =
    utf8 complaintHead ++ (List.replicate n 97 ++ utf8 complaintTail) :=
  calc utf8 (complaint n)
    _ = utf8 complaintHead ++ utf8 (letters n ++ complaintTail) := utf8_append _ _
    _ = utf8 complaintHead ++ (utf8 (letters n) ++ utf8 complaintTail) :=
      congrArg (utf8 complaintHead ++ ·) (utf8_append _ _)
    _ = utf8 complaintHead ++ (List.replicate n 97 ++ utf8 complaintTail) := by rw [utf8_letters]

theorem length_complaint (n : Nat) : (utf8 (complaint n)).length = 21 + n + 3 := by
  have head : (utf8 complaintHead).length = 21 := by decide
  have tail : (utf8 complaintTail).length = 3 := by decide
  rw [utf8_complaint, List.length_append, List.length_append, head, tail, List.length_replicate]
  omega

theorem complaint_rejectsParen (n : Nat) (bytes : Bytes) (v : Value) :
    (complaintCrates n).jsonFromSlice (bytes ++ [41]) ≠ .ok v := by
  have last : ∀ other : Bytes, other.getLast? ≠ some 41 → bytes ++ [41] ≠ other := by
    intro other ends same
    rw [← same, List.getLast?_concat] at ends
    exact ends rfl
  have ends : (utf8 (complaint n)).getLast? ≠ some 41 := by
    have brace : utf8 complaintTail = utf8 "\"\x7d" ++ [125] := by decide
    rw [utf8_complaint, brace, ← List.append_assoc, ← List.append_assoc, List.getLast?_concat]
    decide
  show (if bytes ++ [41] = utf8 (complaint n) then _ else knownJson (bytes ++ [41])) ≠ _
  unfold knownJson
  rw [if_neg (last _ ends), if_neg (last _ (by decide)), if_neg (last _ (by decide))]
  intro same
  cases same

def complainingUpstream (n : Nat) : Upstream (complaintCrates n) where
  entropy := ()
  send _ := .ok
    { status := tooManyRequests
      headers := [("ehbp-response-nonce", utf8 (String.ofList (List.replicate 64 '0')))]
      body := [.ok (wire [utf8 (complaint n) ++ List.replicate 16 0])] }

theorem refusal_complaint {n : Nat} (fits : n + 64 ≤ MAX_FRAME_LEN) :
    Refusal (complaintCrates n) plainClient (complainingUpstream n) [("model", .string "m")] "m"
      tooManyRequests (complaint n) (complaintValue n) := by
  have fields : Fields.get [("model", .string "m")] "model" = some (.string "m") := rfl
  refine ⟨fields, rfl, ?_, if_pos rfl⟩
  obtain ⟨isSealed, seals⟩ := usable_clear.key requestText (by decide +kernel)
  have attempt : ∃ request, sealAttempt (complaintCrates n) plainClient ()
      [("model", .string "m")] "m" = .ok (request, isSealed.session) ∧
      request.body = isSealed.body ∧
      HeaderMap.get request.headers "x-private-model" = some (utf8 "m") :=
    sealAttempt_usable rfl rfl seals rfl
  obtain ⟨request, attempt, _, _⟩ := attempt
  refine ⟨request, isSealed.session, _, ⟨Vector.replicate 32 0, Vector.replicate 12 0, 0⟩, attempt,
    rfl, rfl, ?_, ?_⟩
  · have zeros : ∃ nonceHex, clearCrates.headerValueToStr
        (utf8 (String.ofList (List.replicate 64 '0'))) = some nonceHex ∧
        nonceHex.toList.length / 2 = 32 := ⟨_, rfl, by decide +kernel⟩
    obtain ⟨nonceHex, text, half⟩ := zeros
    have decoded : clearCrates.hexDecode nonceHex = .ok (List.replicate 32 0) := by
      show Except.ok (List.replicate (nonceHex.toList.length / 2) 0) = _
      rw [half]
    exact ⟨⟨_, nonceHex, List.replicate 32 0, rfl, text, decoded, rfl, rfl⟩, rfl⟩
  · have small : (utf8 (complaint n) ++ List.replicate 16 0).length ≤ MAX_FRAME_LEN := by
      rw [List.length_append, length_complaint, List.length_replicate]
      omega
    have opens : openAll .clear ⟨Vector.replicate 32 0, Vector.replicate 12 0, 0⟩
        [utf8 (complaint n) ++ List.replicate 16 0] = some (utf8 (complaint n) ++ [], _) :=
      openAll_frame honest_clear rfl (by decide) small
    rw [List.append_nil] at opens
    exact complete_openAll opens

def complained (n : Nat) : List (Event PpqClient Call Reply) × State PpqClient Call Reply :=
  Transition.execute (step default) (Attested.new 0 plainClient)
    [.arrive 0 (.completion requestBody), .read 0,
      .finish 0 (.error (enclaveError tooManyRequests (utf8 (complaint n))))]

theorem complained_events (n : Nat) : ∃ a b c cached, (complained n).1 =
    [(a, .arrive 0 (.completion requestBody)), (b, .read 0),
      (c, .finish 0 (.error (enclaveError tooManyRequests (utf8 (complaint n)))))] ∧
    (c.tasks 0).runs = some (.completion requestBody, cached) ∧
    cached.client.value = plainClient := ⟨_, _, _, _, rfl, rfl, rfl⟩

theorem perform_complaint {n : Nat} (fits : n + 64 ≤ MAX_FRAME_LEN) :
    Call.perform (complaintCrates n) plainClient (complainingUpstream n) (.completion requestBody) =
      .error (enclaveError tooManyRequests (utf8 (complaint n))) :=
  perform_refused (refusal_complaint fits)

theorem refused_complained {n : Nat} (fits : n + 64 ≤ MAX_FRAME_LEN) :
    Refused (complaintCrates n) 0 (complained n).1 tooManyRequests (complaint n)
      (complaintValue n) := by
  obtain ⟨a, b, c, cached, whole, runs, attested⟩ := complained_events n
  refine ⟨c, [("model", .string "m")], "m", cached, complainingUpstream n, runs, ?_, ?_⟩
  · have performed := perform_complaint fits
    rw [← attested] at performed
    rw [whole]
    show (c, Action.finish 0 (Call.perform _ _ _ (.completion requestBody))) ∈ _
    rw [performed]
    simp
  · rw [attested]
    exact refusal_complaint fits

theorem served_complained {n : Nat} (fits : n + 64 ≤ MAX_FRAME_LEN) : ∀ e ∈ (complained n).1,
    Served (complaintCrates n) ⟨Attest.lenient, fun _ => .error ⟨""⟩, ⟨none, none, none⟩⟩ e := by
  have other : requestText ≠ utf8 (complaint n) := by
    intro same
    have counted := congrArg List.length same
    have short : requestText.length = 13 := by decide
    rw [length_complaint, short] at counted
    omega
  have parsed : (complaintCrates n).jsonFromSlice requestText = .ok requestBody := by
    show (if requestText = utf8 (complaint n) then .ok (complaintValue n) else knownJson requestText) = _
    rw [if_neg other]
    exact clearCrates_requestText
  have request : IsRequest (complaintCrates n) requestText [("model", .string "m")] "m" :=
    ⟨parsed, rfl, .inl rfl⟩
  have accepted : accept (complaintCrates n) requestText = .ok (.completion requestBody) := by
    rw [accept_fits _ (by decide +kernel), parseCall_request request]
    rfl
  obtain ⟨a, b, c, cached, whole, runs, attested⟩ := complained_events n
  rw [whole, List.forall_mem_cons, List.forall_mem_cons, List.forall_mem_singleton]
  refine ⟨⟨requestText, accepted⟩, trivial, ?_⟩
  intro call own running
  rw [runs] at running
  cases running
  exact ⟨complainingUpstream n, by rw [attested, perform_complaint fits]⟩

theorem enclave_error_relayed_iff_short :
    Relays (complaintCrates 1) id (complained 1).2 0 tooManyRequests (complaintValue 1) ↔
      Survives (complaint 1) (complaintValue 1) :=
  enclave_error_relayed_iff (complaint_rejectsParen 1) id
    (Transition.Run.execute (step default) (Attested.new 0 plainClient) _)
    (refused_complained (by decide))

/-- A message of 4096 letters makes the body longer than the cap, and its JSON is lost. -/
theorem enclave_error_truncated : ¬ RelaysEverything (complaintCrates 4096) id := by
  have fits : 4096 + 64 ≤ MAX_FRAME_LEN := by decide
  intro everything
  have run : Transition.Run (step default) (Attested.new 0 plainClient) (complained 4096).1
      (complained 4096).2 := Transition.Run.execute _ _ _
  have refused := refused_complained fits
  obtain ⟨outcome, settled, intact⟩ := everything _ default 0 plainClient _ _ run
    (served_complained fits) 0 _ _ _ refused
  rw [done_refused run refused] at settled
  cases settled
  rcases (intact_iff (complaint_rejectsParen 4096) id _ refused.parsed).mp intact with short | same
  · rw [← length_utf8, length_complaint] at short
    exact absurd short (by decide)
  · simp [complaintValue, errorObject] at same

end PpqTee.Proxy
