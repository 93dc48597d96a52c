import PpqTee.Proxy.Service

/-! The models that the proxy tells of are those of PPQ's catalogue that run in an enclave. -/

namespace PpqTee.Proxy
open Client

/-- What the two endpoints have to tell of a catalogue: all that it offers, in its order, or the first
of that id. -/
inductive Tells (crates : Crates) (data : List Value) : Operation → Answer → Prop
  | all : Tells crates data .listModels (jsonAnswer StatusCode.OK (modelList (data.filterMap offer)))
  | first {id : String} {front back : List Value} {v : Value} {m : PrivateModel}
      (place : data = front ++ v :: back) (offers : offer v = some m) (named : m.id = id)
      (before : ∀ w ∈ front, ∀ m', offer w = some m' → m'.id ≠ id) :
      Tells crates data (.getModel id) (jsonAnswer StatusCode.OK (modelObject m))
  | absent {id : String} (nowhere : ∀ v ∈ data, ∀ m, offer v = some m → m.id ≠ id) :
      Tells crates data (.getModel id)
        ((ApiError.notFound s!"The model '{id}' does not exist").intoResponse crates)

variable {crates : Crates}

theorem find?_offer {data : List Value} {id : String} {m : PrivateModel}
    (found : (data.filterMap offer).find? (fun m => m.id = id) = some m) :
    ∃ front v back, data = front ++ v :: back ∧ offer v = some m ∧ m.id = id ∧
      ∀ w ∈ front, ∀ m', offer w = some m' → m'.id ≠ id := by
  rw [List.find?_filterMap, Option.bind_eq_some_iff] at found
  obtain ⟨v, first, offers⟩ := found
  obtain ⟨named, front, back, place, before⟩ := List.find?_eq_some_iff_append.mp first
  refine ⟨front, v, back, place, offers, ?_, ?_⟩
  · simpa [offers] using named
  · intro w member m' offers'
    simpa [offers'] using before w member

theorem respond_models (crates : Crates) (debugStr : String → String) (data : List Value)
    (operation : Operation) (asks : ∀ call, operation ≠ .chat call) :
    ∃ given, operation.respond crates debugStr (.ok (.models (data.filterMap offer))) = some given ∧
      Tells crates data operation given := by
  cases operation with
  | listModels => exact ⟨_, rfl, .all⟩
  | getModel id =>
    unfold Operation.respond
    simp only
    cases found : (data.filterMap offer).find? (fun m => m.id = id) with
    | some m =>
      obtain ⟨front, v, back, place, offers, named, before⟩ := find?_offer found
      exact ⟨_, rfl, .first place offers named before⟩
    | none =>
      refine ⟨_, rfl, .absent ?_⟩
      intro v member m offers
      have other := List.find?_eq_none.mp found m (List.mem_filterMap.mpr ⟨v, member, offers⟩)
      simpa using other
  | chat call => exact absurd rfl (asks call)

theorem models_performed {catalogueFromStr : String → Except JsonError (List Value)}
    {client : PpqClient} {outside : Outside crates} {operation : Operation}
    {models : List PrivateModel}
    (performed : operation.perform crates catalogueFromStr client outside = .ok (.models models)) :
    (∀ call, operation ≠ .chat call) ∧
      ∃ data, Finds crates catalogueFromStr client outside.listing data ∧
        models = data.filterMap offer := by
  cases operation with
  | listModels | getModel id =>
    obtain ⟨models', listed, same⟩ := map_ok.mp performed
    cases same
    refine ⟨fun call other => (by cases other), listModels_ok.mp listed⟩
  | chat call =>
    obtain ⟨reply, _, same⟩ := map_ok.mp performed
    cases same

/-- In every run, what the proxy tells of the models is what there is in the catalogue that the
operation of this very request came by, where it asked for the models with the URL and the key of
its client: a malformed entry, or one that is not in an enclave, neither shows up nor hides
another. -/
theorem models_served (crates : Crates) (debugStr : String → String)
    (catalogueFromStr : String → Except JsonError (List Value)) (attester : Builder)
    (policy : ReattestPolicy) (now : Nat) (client : PpqClient)
    (trace : List (Event PpqClient Operation Output)) (s : State PpqClient Operation Output)
    (run : Transition.Run (step policy) (Attested.new now client) trace s)
    (serves : ∀ e ∈ trace, Serves crates catalogueFromStr attester e) (i : Nat)
    (operation : Operation) (arrived : Arrived i operation trace) (models : List PrivateModel)
    (done : s.tasks i = .done (.ok (.models models))) :
    ∃ m cached, ∃ outside : Outside crates, ∃ data given,
      (m, .finish i (.ok (.models models))) ∈ trace ∧
      (m.tasks i).runs = some (operation, cached) ∧
      operation.perform crates catalogueFromStr cached.client.value outside =
        .ok (.models models) ∧
      Finds crates catalogueFromStr cached.client.value outside.listing data ∧
      models = data.filterMap offer ∧
      operation.respond crates debugStr (.ok (.models models)) = some given ∧
      Tells crates data operation given := by
  obtain ⟨m, cached, outside, member, runs, performed⟩ := done_performed run serves arrived done
  obtain ⟨asks, data, finds, same⟩ := models_performed performed
  obtain ⟨given, responds, tells⟩ := respond_models crates debugStr data operation asks
  rw [← same] at responds
  exact ⟨m, cached, outside, data, given, member, runs, performed, finds, same, responds, tells⟩

theorem models_served_looked :
    ∃ cached : Cached PpqClient, ∃ outside : Outside clearCrates, ∃ data given,
      Operation.perform clearCrates smallCatalogue cached.client.value outside
        (.getModel "private/m") = .ok (.models [offered]) ∧
      [offered] = data.filterMap offer ∧
      Operation.respond clearCrates id (.getModel "private/m") (.ok (.models [offered])) =
        some given ∧
      Tells clearCrates data (.getModel "private/m") given := by
  have arrived : Arrived 0 (Operation.getModel "private/m") looked.1 := by
    obtain ⟨a, _, _, _, whole, _⟩ := looked_events
    exact ⟨a, by rw [whole]; exact List.mem_cons_self⟩
  obtain ⟨_, cached, outside, data, given, _, _, performed, _, same, responds, tells⟩ :=
    models_served clearCrates id smallCatalogue _ default 0 plainClient looked.1 looked.2
      (Transition.Run.execute _ _ _) serves_looked 0 _ arrived [offered] rfl
  exact ⟨cached, outside, data, given, performed, same, responds, tells⟩

end PpqTee.Proxy
