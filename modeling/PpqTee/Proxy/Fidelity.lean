import PpqTee.Client.Origin
import PpqTee.Proxy.Server

/-! What becomes of the body of a chat request: the endpoint refuses it, or the client refuses its
model, or it is sealed with nothing but its model rewritten, as often as it is sent. -/

namespace PpqTee.Proxy
open Client Ehbp

/-- `"stream": true`. -/
def asked (fields : Fields) : Bool :=
  match Fields.get fields "stream" with
  | some (.bool true) => true
  | _ => false

theorem asked_iff {fields : Fields} :
    asked fields = true ↔ Fields.get fields "stream" = some (.bool true) := by
  unfold asked
  split <;> simp_all

/-- What the endpoint takes: an object with a string as `model`, and a `stream` that is absent,
null or a boolean. -/
structure IsRequest (crates : Crates) (body : Bytes) (fields : Fields) (model : String) : Prop where
  parsed : crates.jsonFromSlice body = .ok (.object fields)
  model : Fields.get fields "model" = some (.string model)
  stream : Fields.get fields "stream" = none ∨ Fields.get fields "stream" = some .null ∨
    ∃ b, Fields.get fields "stream" = some (.bool b)

def Call.ofFields (fields : Fields) : Call :=
  if asked fields then .stream (.object fields) else .completion (.object fields)

def rewritten (fields : Fields) (model : String) : Fields :=
  let fields' := Fields.insert fields "model" (.string (enclaveModelId model))
  if asked fields then Fields.insert fields' "stream" (.bool true) else fields'

variable {crates : Crates} {body : Bytes} {fields : Fields} {model : String}

theorem get_rewritten (fields : Fields) (model key : String) :
    Fields.get (rewritten fields model) key =
      if key = "model" then some (.string (enclaveModelId model)) else Fields.get fields key := by
  unfold rewritten
  by_cases streams : asked fields = true
  · simp only [if_pos streams, Fields.get_insert]
    by_cases same : key = "stream"
    · rw [if_pos same, if_neg (by rw [same]; decide), same, asked_iff.mp streams]
    · rw [if_neg same]
  · simp only [if_neg streams, Fields.get_insert]

theorem asked_rewritten (fields : Fields) (model : String) :
    asked (rewritten fields model) = asked fields := by
  have same : Fields.get (rewritten fields model) "stream" = Fields.get fields "stream" := by
    rw [get_rewritten, if_neg (by decide)]
  unfold asked
  rw [same]

theorem parseCall_request (request : IsRequest crates body fields model) :
    parseCall crates body = .ok (Call.ofFields fields) := by
  have named : (Fields.get fields "model").bind Value.asStr = some model := by
    rw [request.model]
    rfl
  unfold parseCall
  rw [request.parsed]
  simp only [Value.asObject, named]
  unfold Call.ofFields asked
  rcases request.stream with absent | null | ⟨b, flag⟩
  · rw [absent]
    rfl
  · rw [null]
    rfl
  · rw [flag]
    cases b <;> rfl

theorem parseCall_refuses (other : ¬ ∃ fields model, IsRequest crates body fields model) :
    ∃ message, parseCall crates body = .error (.invalidRequest message) := by
  unfold parseCall
  cases parsed : crates.jsonFromSlice body with
  | error e => exact ⟨_, rfl⟩
  | ok v =>
    simp only
    cases object : v.asObject with
    | none => exact ⟨_, rfl⟩
    | some fields =>
      have whole : v = .object fields := by
        cases v <;> cases object
        rfl
      subst whole
      simp only
      cases named : (Fields.get fields "model").bind Value.asStr with
      | none => exact ⟨_, rfl⟩
      | some model =>
        obtain ⟨value, found, text⟩ := Option.bind_eq_some_iff.mp named
        rw [Value.asStr_eq.mp text] at found
        have flag : ∀ state, Fields.get fields "stream" = state →
            ¬ (state = none ∨ state = some .null ∨ ∃ b, state = some (.bool b)) := by
          intro state same shape
          subst same
          exact other ⟨fields, model, parsed, found, shape⟩
        simp only
        split
        · exact absurd (.inl rfl) (flag _ ‹_›)
        · exact absurd (.inr (.inl rfl)) (flag _ ‹_›)
        · exact absurd (.inr (.inr ⟨_, rfl⟩)) (flag _ ‹_›)
        · exact absurd (.inr (.inr ⟨_, rfl⟩)) (flag _ ‹_›)
        · exact ⟨_, rfl⟩

theorem accept_fits (crates : Crates) (fits : body.length ≤ MAX_REQUEST_BODY_BYTES) :
    accept crates body = (parseCall crates body).mapError (ApiError.intoResponse crates) := by
  unfold accept
  rw [if_neg (Nat.not_lt.mpr fits)]

/-! One attempt: what is sealed, and how the answer is read. -/

/-- The request that an attempt sends. -/
def sealAttempt (crates : Crates) (client : PpqClient) (entropy : crates.Entropy) (fields : Fields)
    (model : String) : Result (Request × ResponseSession) := do
  let plaintext ← (crates.jsonToVec (.object (rewritten fields model))).mapError .json
  let headers ← routingHeaders crates model
  sealRequest crates client entropy (client.baseUrl ++ CHAT_COMPLETIONS_PATH) plaintext headers

def readReply (crates : Crates) (streams : Bool) (decoder : FrameDecoder) (response : Response) :
    Result Reply :=
  if streams then (openStream crates.toCrypto decoder response).map .stream
  else do
    let out ← openBody crates.toCrypto decoder response
    let v ← (crates.jsonFromSlice out).mapError .json
    .ok (.completion v)

theorem takeModel_object (named : Fields.get fields "model" = some (.string model)) :
    takeModel (.object fields) =
      .ok (model, Fields.insert fields "model" (.string (enclaveModelId model))) := by
  unfold takeModel
  simp only [Value.asObject, named, Option.bind_some, Value.asStr]

/-- Both kinds of call are one pipeline: they differ in the flag they seal and in the reader. -/
theorem perform_ofFields (named : Fields.get fields "model" = some (.string model))
    (client : PpqClient) (upstream : Upstream crates) :
    (Call.ofFields fields).perform crates client upstream = (do
      let (request, session) ← sealAttempt crates client upstream.entropy fields model
      let response ← (upstream.send request).mapError .http
      let (decoder, response) ← receive crates session response
      readReply crates (asked fields) decoder response) := by
  have taken := takeModel_object named
  unfold Call.ofFields sealAttempt rewritten readReply
  by_cases streams : asked fields = true
  · simp only [if_pos streams, Call.perform, chatCompletionStream, sendSealed, sealAndSend, taken,
      ok_bind, bind_assoc, bind_map]
  · simp only [if_neg streams, Call.perform, chatCompletion, sendSealed, sealAndSend, taken,
      ok_bind, bind_assoc, bind_map, map_mapError]

/-- The attested key and the API key can be used; the base URL always can. -/
structure Usable (crates : Crates) (client : PpqClient) (entropy : crates.Entropy) : Prop where
  key : ∀ plaintext : Bytes, plaintext.length ≤ U32_MAX - 16 → ∃ isSealed,
    sealBody crates.toHpke entropy client.attestation.hpkePublicKey plaintext = .ok isSealed
  bearer : (crates.headerValueFromStr s!"Bearer {client.apiKey}").isSome = true

/-- `serde_json` prints every value, and what was parsed from a body within the limit, in far less
than a frame can hold. -/
structure Printable (crates : Crates) : Prop where
  total : ∀ v, ∃ bytes, crates.jsonToVec v = .ok bytes
  small : ∀ body fields model bytes, body.length ≤ MAX_REQUEST_BODY_BYTES →
    IsRequest crates body fields model →
    crates.jsonToVec (.object (rewritten fields model)) = .ok bytes → bytes.length ≤ U32_MAX - 16

/-- An attempt sends the object with its model rewritten and nothing else, sealed to the attested
key, with the model as it was received in a header; it reads the answer as a stream when the
object that was sealed asks for one. -/
structure Faithful (crates : Crates) (client : PpqClient) (upstream : Upstream crates)
    (fields : Fields) (model : String) (sent : Fields) (request : Request)
    (session : ResponseSession) : Prop where
  rewrites : ∀ key, Fields.get sent key =
    if key = "model" then some (.string (enclaveModelId model)) else Fields.get fields key
  printed : ∃ plaintext isSealed, crates.jsonToVec (.object sent) = .ok plaintext ∧
    sealBody crates.toHpke upstream.entropy client.attestation.hpkePublicKey plaintext =
      .ok isSealed ∧ request.body = isSealed.body ∧ session = isSealed.session
  routed : HeaderMap.get request.headers "x-private-model" = some (utf8 model)
  performs : (Call.ofFields fields).perform crates client upstream = (do
    let response ← (upstream.send request).mapError .http
    let (decoder, response) ← receive crates session response
    readReply crates (asked sent) decoder response)

theorem sealRequest_usable {client : PpqClient} {entropy : crates.Entropy} {plaintext : Bytes}
    {isSealed : SealedRequest} (headers : HeaderMap)
    (seals : sealBody crates.toHpke entropy client.attestation.hpkePublicKey plaintext =
      .ok isSealed)
    (bearer : (crates.headerValueFromStr s!"Bearer {client.apiKey}").isSome = true) :
    ∃ request, sealRequest crates client entropy (client.baseUrl ++ CHAT_COMPLETIONS_PATH) plaintext
        headers = .ok (request, isSealed.session) ∧ request.body = isSealed.body ∧
      HeaderMap.get request.headers "x-private-model" = HeaderMap.get headers "x-private-model" := by
  have rooted : CHAT_COMPLETIONS_PATH.toList.head? = some '/' := by decide
  have encoded := crates.hexIsHeaderValue isSealed.enc.toList
  obtain ⟨value, legal⟩ := Option.isSome_iff_exists.mp bearer
  obtain ⟨encHeader, hex⟩ := Option.isSome_iff_exists.mp encoded
  exact ⟨⟨_, sealedHeaders headers value encHeader, isSealed.body⟩,
    sealRequest_ok.mpr ⟨baseUrl_allows client rooted, isSealed, value, encHeader, seals, legal, hex,
      rfl, rfl⟩, rfl, get_sealedHeaders headers value encHeader⟩

theorem sealAttempt_usable {client : PpqClient} {entropy : crates.Entropy} {plaintext value : Bytes}
    {isSealed : SealedRequest}
    (printed : crates.jsonToVec (.object (rewritten fields model)) = .ok plaintext)
    (legal : crates.headerValueFromStr model = some value)
    (seals : sealBody crates.toHpke entropy client.attestation.hpkePublicKey plaintext =
      .ok isSealed)
    (bearer : (crates.headerValueFromStr s!"Bearer {client.apiKey}").isSome = true) :
    ∃ request, sealAttempt crates client entropy fields model = .ok (request, isSealed.session) ∧
      request.body = isSealed.body ∧
      HeaderMap.get request.headers "x-private-model" = some value := by
  obtain ⟨request, done, carried, routed⟩ := sealRequest_usable (HeaderMap.insert
    (HeaderMap.insert [] "x-private-model" value) "x-query-source" (utf8 "api")) seals bearer
  refine ⟨request, ?_, carried, ?_⟩
  · unfold sealAttempt routingHeaders
    simp only [printed, legal, Except.mapError, ok_bind, done]
  · rw [routed, HeaderMap.get_insert, HeaderMap.get_insert, if_neg (by decide), if_pos rfl]

theorem sealAttempt_faithful
    (carries : ∀ text value, crates.headerValueFromStr text = some value → value = utf8 text)
    (printable : Printable crates) (fits : body.length ≤ MAX_REQUEST_BODY_BYTES)
    (request : IsRequest crates body fields model) {value : Bytes}
    (legal : crates.headerValueFromStr model = some value) {client : PpqClient}
    {upstream : Upstream crates} (usable : Usable crates client upstream.entropy) :
    ∃ sent sealedRequest session,
      Faithful crates client upstream fields model sent sealedRequest session := by
  obtain ⟨plaintext, printed⟩ := printable.total (.object (rewritten fields model))
  obtain ⟨isSealed, seals⟩ := usable.key plaintext (printable.small _ _ _ _ fits request printed)
  obtain ⟨sent, attempt, carried, routed⟩ := sealAttempt_usable printed legal seals usable.bearer
  refine ⟨rewritten fields model, sent, isSealed.session, get_rewritten fields model,
    ⟨plaintext, isSealed, printed, seals, carried, rfl⟩, ?_, ?_⟩
  · rw [routed, carries model value legal]
  · rw [perform_ofFields request.model, attempt, asked_rewritten]
    rfl

theorem sealAttempt_illegal (printable : Printable crates)
    (illegal : crates.headerValueFromStr model = none) (client : PpqClient)
    (entropy : crates.Entropy) :
    sealAttempt crates client entropy fields model = .error (.invalidModelId model) := by
  obtain ⟨plaintext, printed⟩ := printable.total (.object (rewritten fields model))
  unfold sealAttempt routingHeaders
  simp only [printed, illegal, Except.mapError, ok_bind]
  rfl

/-! All attempts of a request are attempts at the one call that it arrived with. -/

section Arrivals

variable {C B T : Type} {policy : ReattestPolicy} {now : Nat} {client : C} {i : Nat}
  {trace : List (Event C B T)} {s s' : State C B T} {a : Action C B T}

theorem idle_before (moves : Moves policy s a s') (idle : s'.tasks i = .idle) :
    s.tasks i = .idle ∧ ∀ call, a ≠ .arrive i call := by
  by_cases other : a.request ≠ some i
  · refine ⟨(tasks_other moves other).symm.trans idle, ?_⟩
    intro call same
    rw [same] at other
    exact other rfl
  have own : a.request = some i := not_not.mp other
  cases moves with
  | tick d => cases own
  | @found j _ cause _ | @store j _ cause =>
    cases own
    cases cause <;> simp [Task.resume] at idle
  | arrive _ | hit _ | miss _ | clear _ | fail _ | fault _ | answer _ | conclude _ | drop _
  | abandon _ =>
    cases own
    simp at idle

theorem arrives_once (run : Transition.Run (step policy) (Attested.new now client) trace s) :
    (∀ call, Arrived i call trace → s.tasks i ≠ .idle) ∧
      ∀ call call', Arrived i call trace → Arrived i call' trace → call = call' := by
  apply run.invariant
  · exact ⟨fun call arrived => by simp [Arrived] at arrived,
      fun call call' arrived => by simp [Arrived] at arrived⟩
  · intro trace s a s' _ past taken
    obtain ⟨begun, same⟩ := past
    have moves := step_moves taken
    have split : ∀ call, Arrived i call (trace ++ [(s, a)]) →
        Arrived i call trace ∨ a = .arrive i call := by
      intro call arrived
      obtain ⟨m, member⟩ := arrived
      rcases List.mem_append.mp member with before | last
      · exact .inl ⟨m, before⟩
      · cases List.mem_singleton.mp last
        exact .inr rfl
    have first : ∀ call, a = .arrive i call → ∀ call', ¬ Arrived i call' trace := by
      intro call arrives call' arrived
      subst arrives
      cases moves with
      | arrive idle => exact begun call' arrived idle
    constructor
    · intro call arrived idle
      obtain ⟨before, silent⟩ := idle_before moves idle
      rcases split call arrived with earlier | arrives
      · exact begun call earlier before
      · exact silent call arrives
    · intro call call' arrived arrived'
      rcases split call arrived, split call' arrived' with ⟨earlier | arrives, earlier' | arrives'⟩
      · exact same call call' earlier earlier'
      · exact absurd earlier (first call' arrives' call)
      · exact absurd earlier' (first call arrives call')
      · rw [arrives] at arrives'
        cases arrives'
        rfl

end Arrivals

section Runs

variable {policy : ReattestPolicy} {now : Nat} {client : PpqClient} {attester : Builder} {i : Nat}
  {trace : List (Event PpqClient Call Reply)} {s s' : State PpqClient Call Reply}
  {a : Action PpqClient Call Reply} {call : Call}

/-- Every attempt performs the call that arrived, against some upstream. -/
theorem attempts_perform
    (run : Transition.Run (step policy) (Attested.new now client) trace s)
    (served : ∀ e ∈ trace, Served crates attester e) (arrived : Arrived i call trace)
    {m : State PpqClient Call Reply} {outcome : Result Reply}
    (member : (m, .finish i outcome) ∈ trace) :
    ∃ cached upstream, (m.tasks i).runs = some (call, cached) ∧
      outcome = call.perform crates cached.client.value upstream := by
  obtain ⟨before, after, whole⟩ := List.append_of_mem member
  subst whole
  obtain ⟨m', earlier, taken, _⟩ := run.split
  have past := past_run earlier i
  have runs : ∃ call' cached, (m.tasks i).runs = some (call', cached) ∧ Arrived i call' before := by
    cases step_moves taken with
    | fault running _ | answer running _ =>
      rw [running] at past ⊢
      exact ⟨_, _, rfl, past.2⟩
    | conclude retrying =>
      rw [retrying] at past ⊢
      obtain ⟨_, _, arrived', _⟩ := past
      exact ⟨_, _, rfl, arrived'⟩
  obtain ⟨call', cached, running, ⟨n, arrival⟩⟩ := runs
  have same : call = call' := (arrives_once run).2 call call' arrived
    ⟨n, List.mem_append_left _ arrival⟩
  subst same
  obtain ⟨upstream, performed⟩ := served _ member call cached running
  exact ⟨cached, upstream, running, performed⟩

/-- No operation of the request failed in a way that may be a symptom of a stale key. -/
def Unsuspicious (i : Nat) (trace : List (Event PpqClient Call Reply)) : Prop :=
  ∀ m err, (m, .finish i (.error err)) ∈ trace → warrantsReattest err = false

theorem Unsuspicious.not_faulted {before after : List (Event PpqClient Call Reply)}
    (unsuspicious : Unsuspicious i (before ++ after)) (first : Call × Cached PpqClient) :
    ¬ Faulted policy i first before := by
  intro faulted
  obtain ⟨m, err, member, _, warrants, _⟩ := faulted
  rw [unsuspicious m err (List.mem_append_left _ member)] at warrants
  cases warrants

theorem launched_once (run : Transition.Run (step policy) (Attested.new now client) trace s) :
    Unsuspicious i trace → (launched policy i trace).length ≤ 1 := by
  apply run.invariant
  · intro _
    exact Nat.zero_le 1
  · intro trace s a s' earlier past taken unsuspicious
    have before := past fun m err member => unsuspicious m err (List.mem_append_left _ member)
    rw [launched_snoc, List.length_append]
    cases started : launches policy i (s, a) with
    | none => simpa using before
    | some second =>
      cases sent : launched policy i trace with
      | nil => simp
      | cons first rest =>
        have member : first ∈ launched policy i trace := by
          rw [sent]
          exact List.mem_cons_self
        exact absurd (second_launch earlier taken member started).1
          (unsuspicious.not_faulted first)

theorem never_waits_on_failure
    (run : Transition.Run (step policy) (Attested.new now client) trace s)
    (unsuspicious : Unsuspicious i trace) : ∀ event ∈ trace, (event.1.tasks i).failure = none := by
  intro event member
  obtain ⟨before, after, whole⟩ := List.append_of_mem member
  subst whole
  obtain ⟨m', earlier, _, _⟩ := run.split
  have past := past_run earlier i
  match held : event.1.tasks i with
  | .waiting _ (.failed stale) =>
    rw [held] at past
    exact absurd past.2.2 (unsuspicious.not_faulted _)
  | .waiting _ (.aged _) | .idle | .reading _ | .attesting _ _ | .running _ _ | .retrying _ _
  | .done _ | .cancelled => rfl

end Runs

/-- Over a run, the attempts of a request are attempts at the one call it arrived with; if its
model is no legal header value there is no second one, and the answer is a 400. -/
structure OneCall (crates : Crates) (debugStr : String → String) (policy : ReattestPolicy) (i : Nat)
    (call : Call) (model : String) (trace : List (Event PpqClient Call Reply))
    (s : State PpqClient Call Reply) : Prop where
  attempts : ∀ attempt ∈ launched policy i trace, attempt.1 = call
  outcomes : ∀ m outcome, (m, .finish i outcome) ∈ trace → ∃ cached upstream,
    (m.tasks i).runs = some (call, cached) ∧
    outcome = call.perform crates cached.client.value upstream
  refused : crates.headerValueFromStr model = none → (launched policy i trace).length ≤ 1 ∧
    (∀ event ∈ trace, (event.1.tasks i).failure = none) ∧
    ∀ m outcome, (m, .finish i outcome) ∈ trace →
      s.tasks i = .done outcome ∧ (answer crates debugStr outcome).status = .BAD_REQUEST

theorem oneCall_run {debugStr : String → String} {policy : ReattestPolicy} {now : Nat}
    {client : PpqClient} {attester : Builder} {i : Nat} {call : Call}
    {trace : List (Event PpqClient Call Reply)} {s : State PpqClient Call Reply}
    (illegal : crates.headerValueFromStr model = none → ∀ client upstream,
      call.perform crates client upstream = .error (.invalidModelId model))
    (run : Transition.Run (step policy) (Attested.new now client) trace s)
    (served : ∀ e ∈ trace, Served crates attester e) (arrived : Arrived i call trace) :
    OneCall crates debugStr policy i call model trace s where
  attempts attempt member :=
    (arrives_once run).2 _ _ ((past_run run i).sent.arrived attempt member) arrived
  outcomes m outcome member := attempts_perform run served arrived member
  refused none := by
    have failed : ∀ m outcome, (m, .finish i outcome) ∈ trace →
        outcome = .error (.invalidModelId model) := by
      intro m outcome member
      obtain ⟨cached, upstream, _, performed⟩ := attempts_perform run served arrived member
      exact performed.trans (illegal none _ upstream)
    have unsuspicious : Unsuspicious i trace := by
      intro m err member
      cases failed m _ member
      rfl
    refine ⟨launched_once run unsuspicious, never_waits_on_failure run unsuspicious, ?_⟩
    intro m outcome member
    have same := failed m outcome member
    subst same
    refine ⟨done_of_finish run member ?_, rfl⟩
    intro err same
    cases same
    rfl

/-- A chat request gets a 400 from the endpoint, or one for its model before anything is sealed,
or what is sealed, however often, is what was received with its model rewritten. -/
theorem request_fidelity (crates : Crates) (debugStr : String → String)
    (carries : ∀ text value, crates.headerValueFromStr text = some value → value = utf8 text)
    (printable : Printable crates) (body : Bytes) (fits : body.length ≤ MAX_REQUEST_BODY_BYTES) :
    ((¬ ∃ fields model, IsRequest crates body fields model) →
      ∃ refusal, accept crates body = .error refusal ∧ refusal.status = .BAD_REQUEST) ∧
    ∀ fields model, IsRequest crates body fields model →
      accept crates body = .ok (Call.ofFields fields) ∧
      (∀ value, crates.headerValueFromStr model = some value → ∀ client upstream,
        Usable crates client upstream.entropy → ∃ sent request session,
          Faithful crates client upstream fields model sent request session) ∧
      (crates.headerValueFromStr model = none → ∀ client upstream,
        sealAttempt crates client upstream.entropy fields model = .error (.invalidModelId model) ∧
        (Call.ofFields fields).perform crates client upstream = .error (.invalidModelId model)) ∧
      ∀ (attester : Builder) (policy : ReattestPolicy) (now : Nat) (client : PpqClient)
        (trace : List (Event PpqClient Call Reply)) (s : State PpqClient Call Reply),
        Transition.Run (step policy) (Attested.new now client) trace s →
        (∀ e ∈ trace, Served crates attester e) → ∀ i, Arrived i (Call.ofFields fields) trace →
          OneCall crates debugStr policy i (Call.ofFields fields) model trace s := by
  have answers := accept_fits crates fits
  constructor
  · intro other
    obtain ⟨message, refused⟩ := parseCall_refuses other
    exact ⟨_, by rw [answers, refused]; rfl, rfl⟩
  · intro fields model request
    have illegal : crates.headerValueFromStr model = none → ∀ client upstream,
        (Call.ofFields fields).perform crates client upstream =
          .error (.invalidModelId model) := by
      intro illegal client upstream
      rw [perform_ofFields request.model, sealAttempt_illegal printable illegal]
      rfl
    refine ⟨?_, ?_, ?_, ?_⟩
    · rw [answers, parseCall_request request]
      rfl
    · intro value legal client upstream usable
      exact sealAttempt_faithful carries printable fits request legal usable
    · intro none client upstream
      exact ⟨sealAttempt_illegal printable none client upstream.entropy, illegal none client upstream⟩
    · intro attester policy now client trace s run served i arrived
      exact oneCall_run illegal run served arrived

theorem printable_clear : Printable clearCrates where
  total _ := ⟨requestText, rfl⟩
  small _ _ _ bytes _ _ printed := by
    cases printed
    decide +kernel

theorem usable_clear : Usable clearCrates plainClient () where
  key plaintext fits := by
    unfold sealBody
    rw [if_neg (Nat.not_lt.mpr fits)]
    exact ⟨_, rfl⟩
  bearer := rfl

theorem request_fidelity_answered :
    (∃ sent request session, Faithful clearCrates plainClient clearUpstream
      [("model", .string "m")] "m" sent request session) ∧
    OneCall clearCrates id default 0 (.completion requestBody) "m" answered.1 answered.2 := by
  have request : IsRequest clearCrates requestText [("model", .string "m")] "m" :=
    ⟨clearCrates_requestText, rfl, .inl rfl⟩
  have carries : ∀ text value, clearCrates.headerValueFromStr text = some value →
      value = utf8 text := fun text value same => (Option.some.inj same).symm
  obtain ⟨_, legal, _, runs⟩ := (request_fidelity clearCrates id carries printable_clear requestText
    (by decide +kernel)).2 _ _ request
  exact ⟨legal _ rfl plainClient clearUpstream usable_clear,
    runs _ default 0 plainClient answered.1 answered.2 (Transition.Run.execute _ _ _)
      served_answered 0 ⟨_, List.mem_cons_self⟩⟩

end PpqTee.Proxy
