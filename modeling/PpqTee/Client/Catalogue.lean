import PpqTee.Client

/-! The models in PPQ's catalogue, as far as they run in an enclave. Nothing here is attested. -/

namespace PpqTee.Client

structure Pricing where
  inputPer1M : Float
  outputPer1M : Float
  currency : String

structure PrivateModel where
  id : String
  name : String
  contextLength : UInt32
  pricing : Pricing

structure RawPricing where
  currency : String
  input : Float
  output : Float

structure Entry where
  id : String
  name : String
  contextLength : UInt32
  privacyLevel : String
  pricing : Option RawPricing

/-! What `serde` derives for the two: a field is looked up by its name in an object, and by its
place in an array that has no more items than there are fields. -/

def fieldsOf (count : Nat) : Value → Option (Nat → String → Option Value)
  | .object fields => some fun _ name => Fields.get fields name
  | .array items => if items.length ≤ count then some fun place _ => items[place]? else none
  | _ => none

def orDefault {α : Type} (read : Value → Option α) (default : α) : Option Value → Option α
  | some v => read v
  | none => some default

def readU32 : Value → Option UInt32
  | .number (.posInt n) => if n.toNat < 2 ^ 32 then some n.toUInt32 else none
  | .number (.negInt n) =>
    if 0 ≤ n.toInt ∧ n.toInt < 2 ^ 32 then some (.ofNat n.toInt.toNat) else none
  | _ => none

def readF64 : Value → Option Float
  | .number (.posInt n) => some n.toFloat
  | .number (.negInt n) => some n.toFloat
  | .number (.float bits) => some (.ofBits bits)
  | _ => none

def RawPricing.fromValue (v : Value) : Option RawPricing := do
  let field ← fieldsOf 3 v
  let currency ← orDefault Value.asStr "" (field 0 "currency")
  let input ← orDefault readF64 0 (field 1 "input_per_1M_tokens")
  let output ← orDefault readF64 0 (field 2 "output_per_1M_tokens")
  some { currency, input, output }

def readPricing : Value → Option (Option RawPricing)
  | .null => some none
  | v => (RawPricing.fromValue v).map some

def Entry.fromValue (v : Value) : Option Entry := do
  let field ← fieldsOf 5 v
  let id ← (field 0 "id").bind Value.asStr
  let name ← orDefault Value.asStr "" (field 1 "name")
  let contextLength ← orDefault readU32 0 (field 2 "context_length")
  let privacyLevel ← orDefault Value.asStr "" (field 3 "privacyLevel")
  let pricing ← orDefault readPricing none (field 4 "pricing")
  some { id, name, contextLength, privacyLevel, pricing }

def Entry.model (e : Entry) : PrivateModel :=
  let p := e.pricing.getD { currency := "USD", input := 0, output := 0 }
  { id := e.id
    name := e.name
    contextLength := e.contextLength
    pricing := { inputPer1M := p.input, outputPer1M := p.output, currency := p.currency } }

/-- `catalogueFromStr` is the parser that is derived for the whole: the `data` of the catalogue. -/
def parsePrivate (catalogueFromStr : String → Except JsonError (List Value)) (json : String) :
    Result (List PrivateModel) := do
  let data ← (catalogueFromStr json).mapError .json
  .ok (((data.filterMap Entry.fromValue).filter fun e => e.privacyLevel = "e2e").map Entry.model)

/-- What a call of `list_models` meets: what `reqwest` makes of its GET, redirects followed, and the
errors it makes of a token that is no header value and of a status from 400 on. -/
structure Listing where
  get : (url : String) → (bearer : Bytes) → Except ReqwestError Response
  invalidBearer : ReqwestError
  statusError : (url : String) → StatusCode → ReqwestError

def listModels (crates : Crates) (catalogueFromStr : String → Except JsonError (List Value))
    (client : PpqClient) (listing : Listing) : Result (List PrivateModel) :=
  let url := s!"{client.baseUrl}/v1/models"
  match crates.headerValueFromStr s!"Bearer {client.apiKey}" with
  | none => .error (.http listing.invalidBearer)
  | some bearer => do
    let response ← (listing.get url bearer).mapError .http
    if 400 ≤ response.status.code ∧ response.status.code < 600 then
      .error (.http (listing.statusError url response.status))
    else do
      let bytes ← (readAll response.body).mapError .http
      parsePrivate catalogueFromStr (fromUtf8Lossy bytes)

variable {crates : Crates} {catalogueFromStr : String → Except JsonError (List Value)}

/-- What an entry of the catalogue offers: a model, if it can be read and is end-to-end encrypted. -/
def offer (v : Value) : Option PrivateModel :=
  (Entry.fromValue v).bind fun e => if e.privacyLevel = "e2e" then some e.model else none

/-- The catalogue that a call of `list_models` finds, where it asks below the URL of the client. -/
def Finds (crates : Crates) (catalogueFromStr : String → Except JsonError (List Value))
    (client : PpqClient) (listing : Listing) (data : List Value) : Prop :=
  ∃ bearer response bytes, crates.headerValueFromStr s!"Bearer {client.apiKey}" = some bearer ∧
    listing.get s!"{client.baseUrl}/v1/models" bearer = .ok response ∧
    ¬ (400 ≤ response.status.code ∧ response.status.code < 600) ∧
    readAll response.body = .ok bytes ∧ catalogueFromStr (fromUtf8Lossy bytes) = .ok data

/-- Each entry is read on its own: what one of them holds makes no difference to the others. -/
theorem parsePrivate_ok {json : String} {models : List PrivateModel} :
    parsePrivate catalogueFromStr json = .ok models ↔
      ∃ data, catalogueFromStr json = .ok data ∧ models = data.filterMap offer := by
  have entries (data : List Value) :
      ((data.filterMap Entry.fromValue).filter fun e => e.privacyLevel = "e2e").map Entry.model =
        data.filterMap offer := by
    rw [List.filter_filterMap, List.map_filterMap]
    congr 1
    funext v
    unfold offer
    cases Entry.fromValue v with
    | none => rfl
    | some e =>
      by_cases level : e.privacyLevel = "e2e"
      · simp [level]
      · simp [level]
  unfold parsePrivate
  rw [bind_ok]
  simp only [mapError_ok, Except.ok.injEq, entries]
  apply exists_congr
  intro data
  apply and_congr_right
  intro _
  exact eq_comm

/-- The models of the catalogue that was found, and all of them. -/
theorem listModels_ok {client : PpqClient} {listing : Listing} {models : List PrivateModel} :
    listModels crates catalogueFromStr client listing = .ok models ↔
      ∃ data, Finds crates catalogueFromStr client listing data ∧ models = data.filterMap offer := by
  unfold listModels
  simp only
  apply Iff.intro
  · intro listed
    split at listed
    · cases listed
    · rename_i bearer legal
      obtain ⟨response, got, listed⟩ := bind_ok.mp listed
      split at listed
      · cases listed
      · rename_i fine
        obtain ⟨bytes, read, parsed⟩ := bind_ok.mp listed
        obtain ⟨data, catalogue, same⟩ := parsePrivate_ok.mp parsed
        exact ⟨data, ⟨bearer, response, bytes, legal, mapError_ok.mp got, fine, mapError_ok.mp read,
          catalogue⟩, same⟩
  · intro found
    obtain ⟨data, ⟨bearer, response, bytes, legal, got, fine, read, catalogue⟩, same⟩ := found
    rw [legal]
    simp only
    rw [got]
    show (if _ then _ else _) = _
    rw [if_neg fine, read]
    exact parsePrivate_ok.mpr ⟨data, catalogue, same⟩

/-- What `list_models` fails with: nothing that an enclave or a verifier would have had to tell. -/
def IsListing : Error → Prop
  | .http _ | .json _ => True
  | _ => False

theorem listModels_fails (client : PpqClient) (listing : Listing) :
    Fails IsListing (listModels crates catalogueFromStr client listing) := by
  unfold listModels
  simp only
  split
  · exact .error trivial
  · refine .bindMapError (fun _ => trivial) fun response => ?_
    split
    · exact .error trivial
    · refine .bindMapError (fun _ => trivial) fun bytes => ?_
      unfold parsePrivate
      exact .bindMapError (fun _ => trivial) fun data => .ok _

end PpqTee.Client
