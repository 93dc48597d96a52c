import PpqTee.Client.Backend
import PpqTee.Client.Catalogue
import PpqTee.Proxy.Fidelity

/-! All that the proxy serves: chats, and the models there are to chat with. They share the client
and its lock, so whoever asks for models may bring an attestation about as well. -/

namespace PpqTee.Proxy
open Client

def MODEL_OWNER : String := "ppq"

/-- `serialize_f64`. -/
def floatValue (x : Float) : Value := if x.isFinite then .number (.float x.toBits) else .null

/-- `Model::from`, and then its fields as they are serialized, which is not by their names. -/
def modelObject (m : PrivateModel) : Value := .object
  [("id", .string m.id), ("object", .string "model"), ("created", .number (.posInt 0)),
    ("owned_by", .string MODEL_OWNER), ("name", .string m.name),
    ("context_length", .number (.posInt m.contextLength.toUInt64)),
    ("pricing", .object
      [("input_per_1m_tokens", floatValue m.pricing.inputPer1M),
        ("output_per_1m_tokens", floatValue m.pricing.outputPer1M),
        ("currency", .string m.pricing.currency)])]

def modelList (models : List PrivateModel) : Value :=
  .object [("object", .string "list"), ("data", .array (models.map modelObject))]

def ApiError.notFound (message : String) : ApiError :=
  .shaped StatusCode.NOT_FOUND "invalid_request_error" (some "model_not_found") message

/-- What is asked of the client behind the lock, by each of the three endpoints. -/
inductive Operation where
  | listModels
  | getModel (id : String)
  | chat (call : Call)

inductive Output where
  | models (models : List PrivateModel)
  | chat (reply : Reply)

variable (crates : Crates) (debugStr : String → String)
  (catalogueFromStr : String → Except JsonError (List Value))

/-- What one operation meets. -/
structure Outside where
  upstream : Upstream crates
  listing : Listing

def Operation.perform (client : PpqClient) (outside : Outside crates) : Operation → Result Output
  | .listModels | .getModel _ =>
    (Client.listModels crates catalogueFromStr client outside.listing).map .models
  | .chat call => (call.perform crates client outside.upstream).map .chat

/-- What the endpoint makes of its result; no result of the other kind ever gets there. -/
def Operation.respond : Operation → Result Output → Option Answer
  | _, .error e => some ((ApiError.ofError debugStr e).intoResponse crates)
  | .listModels, .ok (.models models) => some (jsonAnswer StatusCode.OK (modelList models))
  | .getModel id, .ok (.models models) =>
    match models.find? fun m => m.id = id with
    | some m => some (jsonAnswer StatusCode.OK (modelObject m))
    | none => some ((ApiError.notFound s!"The model '{id}' does not exist").intoResponse crates)
  | .chat _, .ok (.chat reply) => some (answer crates debugStr (.ok reply))
  | _, _ => none

/-- As `Served`, for all three endpoints. -/
def Serves (attester : Builder) : Event PpqClient Operation Output → Prop
  | (_, .arrive _ (.chat call)) => ∃ body, accept crates body = .ok call
  | (_, .attested _ outcome) => ∃ network, outcome = attester.attest network
  | (s, .finish i outcome) => ∀ operation cached, (s.tasks i).runs = some (operation, cached) →
      ∃ outside, outcome = operation.perform crates catalogueFromStr cached.client.value outside
  | _ => True

/-- Where an answer comes from that is not an error: of one catalogue, or of what the upstream
sealed for this very call. -/
inductive Sourced (client : PpqClient) (outside : Outside crates) : Operation → Answer → Prop
  | list {models : List PrivateModel}
      (listed : Client.listModels crates catalogueFromStr client outside.listing = .ok models) :
      Sourced client outside .listModels (jsonAnswer StatusCode.OK (modelList models))
  | found {id : String} {models : List PrivateModel} {m : PrivateModel}
      (listed : Client.listModels crates catalogueFromStr client outside.listing = .ok models)
      (first : models.find? (fun m => m.id = id) = some m) :
      Sourced client outside (.getModel id) (jsonAnswer StatusCode.OK (modelObject m))
  | missing {id : String} {models : List PrivateModel}
      (listed : Client.listModels crates catalogueFromStr client outside.listing = .ok models)
      (absent : ∀ m ∈ models, m.id ≠ id) :
      Sourced client outside (.getModel id)
        ((ApiError.notFound s!"The model '{id}' does not exist").intoResponse crates)
  | chat {call : Call} {given : Answer}
      (authentic : Authentic crates client outside.upstream call given) :
      Sourced client outside (.chat call) given

variable {crates debugStr catalogueFromStr}

theorem listing_noSuccess (e : Error) (fetching : IsListing e) : NoSuccess e := by
  cases e with
  | http e => trivial
  | json e => trivial
  | _ => cases fetching

theorem operation_fails (client : PpqClient) (outside : Outside crates) (operation : Operation) :
    Fails NoSuccess (operation.perform crates catalogueFromStr client outside) := by
  have listing : Fails NoSuccess
      (Client.listModels crates catalogueFromStr client outside.listing) :=
    (listModels_fails client outside.listing).weaken listing_noSuccess
  cases operation with
  | listModels => exact listing.map Output.models
  | getModel id => exact listing.map Output.models
  | chat call => exact (perform_fails client outside.upstream call).map Output.chat

theorem perform_sourced (rejectsEmpty : ∀ v, crates.jsonFromSlice [] ≠ .ok v) {client : PpqClient}
    {outside : Outside crates} {operation : Operation} {output : Output}
    (performed : operation.perform crates catalogueFromStr client outside = .ok output) :
    ∃ given, operation.respond crates debugStr (.ok output) = some given ∧
      Sourced crates catalogueFromStr client outside operation given := by
  cases operation with
  | listModels =>
    obtain ⟨models, listed, same⟩ := map_ok.mp performed
    rw [← same]
    exact ⟨_, rfl, .list listed⟩
  | getModel id =>
    obtain ⟨models, listed, same⟩ := map_ok.mp performed
    rw [← same]
    unfold Operation.respond
    simp only
    cases first : models.find? fun m => m.id = id with
    | some m => exact ⟨_, rfl, .found listed first⟩
    | none =>
      refine ⟨_, rfl, .missing listed ?_⟩
      intro m member
      simpa using List.find?_eq_none.mp first m member
  | chat call =>
    obtain ⟨reply, answered, same⟩ := map_ok.mp performed
    rw [← same]
    exact ⟨_, rfl, .chat (perform_ok rejectsEmpty answered)⟩

/-- Only an operation that runs can end, and it is the one its request arrived with. -/
theorem runs_of_finish {C B T : Type} {policy : ReattestPolicy} {now : Nat} {client : C}
    {before : List (Event C B T)} {s s' : State C B T} {i : Nat} {outcome : Result T}
    (run : Transition.Run (step policy) (Attested.new now client) before s)
    (moves : Moves policy s (.finish i outcome) s') :
    ∃ body cached, (s.tasks i).runs = some (body, cached) ∧ Arrived i body before := by
  have past := past_run run i
  cases moves with
  | @fault _ body cached _ runs _ | @answer _ body cached _ runs _ =>
    rw [runs] at past ⊢
    exact ⟨body, cached, rfl, past.2⟩
  | @conclude _ body fresh _ runs =>
    rw [runs] at past ⊢
    obtain ⟨_, _, arrived, _⟩ := past
    exact ⟨body, fresh, rfl, arrived⟩

/-- What a request ends with is what the operation came to that it arrived with. -/
theorem operation_of_finish {C B T : Type} {policy : ReattestPolicy} {now : Nat} {client : C}
    {trace : List (Event C B T)} {m s : State C B T} {i : Nat} {body : B} {outcome : Result T}
    (run : Transition.Run (step policy) (Attested.new now client) trace s)
    (ended : (m, .finish i outcome) ∈ trace) (arrived : Arrived i body trace) :
    ∃ cached, (m.tasks i).runs = some (body, cached) := by
  obtain ⟨before, after, whole⟩ := List.append_of_mem ended
  have run' := run
  rw [whole] at run'
  obtain ⟨_, reached, taken, _⟩ := run'.split
  obtain ⟨ran, cached, runs, m', earlier⟩ := runs_of_finish reached (step_moves taken)
  have arrived' : Arrived i ran trace := ⟨m', by rw [whole]; exact List.mem_append_left _ earlier⟩
  rw [(arrives_once run).2 ran body arrived' arrived] at runs
  exact ⟨cached, runs⟩

/-- Behind every success there is the operation of that request, performed by some client. -/
theorem done_performed {attester : Builder} {policy : ReattestPolicy} {now : Nat} {client : PpqClient}
    {trace : List (Event PpqClient Operation Output)} {s : State PpqClient Operation Output}
    (run : Transition.Run (step policy) (Attested.new now client) trace s)
    (serves : ∀ e ∈ trace, Serves crates catalogueFromStr attester e) {i : Nat}
    {operation : Operation} (arrived : Arrived i operation trace) {output : Output}
    (done : s.tasks i = .done (.ok output)) :
    ∃ m cached outside, (m, .finish i (.ok output)) ∈ trace ∧
      (m.tasks i).runs = some (operation, cached) ∧
      operation.perform crates catalogueFromStr cached.client.value outside = .ok output := by
  obtain ⟨before, m, a, after, whole, -, cause⟩ := done_at run done
  have member : (m, a) ∈ trace := by simp [whole]
  rcases cause with ⟨same, _⟩ | ⟨e, _, _, failed⟩
  · subst same
    obtain ⟨cached, runs⟩ := operation_of_finish run member arrived
    obtain ⟨outside, performed⟩ := serves _ member operation cached runs
    exact ⟨m, cached, outside, member, runs, performed.symm⟩
  · cases failed

/-- Behind every failure there is no more than an operation or an attestation that failed. -/
theorem done_fails {attester : Builder} {policy : ReattestPolicy} {now : Nat} {client : PpqClient}
    {trace : List (Event PpqClient Operation Output)} {s : State PpqClient Operation Output}
    (run : Transition.Run (step policy) (Attested.new now client) trace s)
    (serves : ∀ e ∈ trace, Serves crates catalogueFromStr attester e) {i : Nat}
    {operation : Operation} (arrived : Arrived i operation trace) {e : Error}
    (done : s.tasks i = .done (.error e)) : NoSuccess e := by
  obtain ⟨before, m, a, after, whole, -, cause⟩ := done_at run done
  have member : (m, a) ∈ trace := by simp [whole]
  rcases cause with ⟨same, _⟩ | ⟨e', same, _, failed⟩
  · subst same
    obtain ⟨cached, runs⟩ := operation_of_finish run member arrived
    obtain ⟨outside, performed⟩ := serves _ member operation cached runs
    exact operation_fails cached.client.value outside operation e performed.symm
  · cases failed
    subst same
    obtain ⟨network, attested⟩ := serves _ member
    exact build_fails _ _ _ network e attested.symm

/-- Every request that is done can be answered, whichever endpoint it came to and whatever went on
besides: from the catalogue that its operation fetched, or from what the upstream of its operation
sealed for it, or with no success status. -/
theorem service_answers (crates : Crates) (debugStr : String → String)
    (catalogueFromStr : String → Except JsonError (List Value))
    (rejectsEmpty : ∀ v, crates.jsonFromSlice [] ≠ .ok v) (attester : Builder)
    (policy : ReattestPolicy) (now : Nat) (client : PpqClient)
    (trace : List (Event PpqClient Operation Output)) (s : State PpqClient Operation Output)
    (run : Transition.Run (step policy) (Attested.new now client) trace s)
    (serves : ∀ e ∈ trace, Serves crates catalogueFromStr attester e) (i : Nat)
    (operation : Operation) (arrived : Arrived i operation trace) (result : Result Output)
    (done : s.tasks i = .done result) :
    ∃ given, operation.respond crates debugStr result = some given ∧
      (∀ output, result = .ok output → ∃ m cached outside, (m, .finish i result) ∈ trace ∧
        (m.tasks i).runs = some (operation, cached) ∧
        operation.perform crates catalogueFromStr cached.client.value outside = .ok output ∧
        Sourced crates catalogueFromStr cached.client.value outside operation given) ∧
      ∀ e, result = .error e → given.status.isSuccess = false := by
  cases result with
  | ok output =>
    obtain ⟨m, cached, outside, member, runs, performed⟩ :=
      done_performed run serves arrived done
    obtain ⟨given, responds, sourced⟩ := perform_sourced rejectsEmpty performed
    refine ⟨given, responds, ?_, fun e failed => (by cases failed)⟩
    intro _ same
    cases same
    exact ⟨m, cached, outside, member, runs, performed, sourced⟩
  | error e =>
    have harmless := done_fails run serves arrived done
    refine ⟨_, rfl, fun output succeeded => (by cases succeeded), ?_⟩
    intro _ _
    exact answer_error harmless

/-! Two models, one of them in an enclave. -/

def offered : PrivateModel := ⟨"private/m", "", 0, ⟨0, 0, "USD"⟩⟩

def smallCatalogue (_ : String) : Except JsonError (List Value) := .ok
  [.object [("id", .string "m"), ("privacyLevel", .string "anon")],
    .object [("id", .string "private/m"), ("privacyLevel", .string "e2e")]]

def smallListing : Listing where
  get _ _ := .ok ⟨.OK, [], []⟩
  invalidBearer := ⟨""⟩
  statusError _ _ := ⟨""⟩

theorem listModels_small :
    Client.listModels clearCrates smallCatalogue plainClient smallListing = .ok [offered] :=
  rfl

def looked : List (Event PpqClient Operation Output) × State PpqClient Operation Output :=
  Transition.execute (step default) (Attested.new 0 plainClient)
    [.arrive 0 (.getModel "private/m"), .read 0, .finish 0 (.ok (.models [offered]))]

theorem looked_events : ∃ a b c cached, looked.1 =
    [(a, .arrive 0 (.getModel "private/m")), (b, .read 0), (c, .finish 0 (.ok (.models [offered])))] ∧
    (c.tasks 0).runs = some (.getModel "private/m", cached) ∧ cached.client.value = plainClient :=
  ⟨_, _, _, _, rfl, rfl, rfl⟩

theorem serves_looked : ∀ e ∈ looked.1, Serves clearCrates smallCatalogue
    ⟨Attest.lenient, fun _ => .error ⟨""⟩, ⟨none, none, none⟩⟩ e := by
  obtain ⟨a, b, c, cached, whole, runs, attested⟩ := looked_events
  rw [whole, List.forall_mem_cons, List.forall_mem_cons, List.forall_mem_singleton]
  refine ⟨trivial, trivial, ?_⟩
  intro operation other running
  rw [runs] at running
  cases running
  refine ⟨⟨clearUpstream, smallListing⟩, ?_⟩
  rw [Operation.perform, attested, listModels_small]
  rfl

theorem service_answers_looked : ∃ m cached outside,
    (m, .finish 0 (.ok (.models [offered]))) ∈ looked.1 ∧
      (m.tasks 0).runs = some (.getModel "private/m", cached) ∧
      Operation.perform clearCrates smallCatalogue cached.client.value outside
        (.getModel "private/m") = .ok (.models [offered]) ∧
      Sourced clearCrates smallCatalogue cached.client.value outside (.getModel "private/m")
        (jsonAnswer .OK (modelObject offered)) := by
  have arrived : Arrived 0 (Operation.getModel "private/m") looked.1 := by
    obtain ⟨a, _, _, _, whole, _⟩ := looked_events
    exact ⟨a, by rw [whole]; exact List.mem_cons_self⟩
  obtain ⟨given, responds, sourced, _⟩ :=
    service_answers clearCrates id smallCatalogue clearCrates_rejectsEmpty _ default 0 plainClient
      looked.1 looked.2 (Transition.Run.execute _ _ _) serves_looked 0 _ arrived _ rfl
  cases responds
  exact sourced _ rfl

end PpqTee.Proxy
