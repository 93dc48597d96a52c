import PpqTee.Attest.Exact
import PpqTee.Client.Build
import PpqTee.Client.Reading
import PpqTee.Ehbp.Layout

/-! What a build takes from the network: which answers make a client, and how much of the bundle,
which nobody has verified yet, it ever holds. -/

namespace PpqTee.Client
open Attest Ehbp

variable {network : Network}

/-- The answer to a GET: no error status, and these bytes, in whatever pieces they came. -/
structure Answers (network : Network) (url : String) (fetched : Fetched) (bytes : Bytes) : Prop where
  got : network.get url = .ok fetched
  fine : ¬ (400 ≤ fetched.status.code ∧ fetched.status.code < 600)
  whole : readAll fetched.body = .ok bytes

/-- A bundle is published below `base`: the text of a body that is not over the cap, nor announced
to be. -/
def Publishes (bundleFromStr : String → Except JsonError AttestationBundle) (network : Network)
    (base : String) (bundle : AttestationBundle) : Prop :=
  ∃ fetched bytes text, Answers network s!"{base}/private/attestation" fetched bytes ∧
    (∀ n, fetched.contentLength = some n → n ≤ MAX_BUNDLE_BYTES) ∧
    bytes.length ≤ MAX_BUNDLE_BYTES ∧ fromUtf8 bytes = .ok text ∧ bundleFromStr text = .ok bundle

/-- A key is advertised below `base`, in a configuration that this implementation supports. -/
def Advertises (network : Network) (base : String) (key : Vector UInt8 32) : Prop :=
  ∃ fetched bytes config n, Answers network s!"{base}/private/.well-known/hpke-keys" fetched bytes ∧
    Declares bytes config n ∧ config.publicKey = key

theorem getOk_ok {url : String} {fetched : Fetched} :
    getOk network url = .ok fetched ↔ network.get url = .ok fetched ∧
      ¬ (400 ≤ fetched.status.code ∧ fetched.status.code < 600) := by
  unfold getOk errorForStatus
  simp only [bind_ok, mapError_ok]
  apply Iff.intro
  · intro taken
    obtain ⟨fetched', got, fine⟩ := taken
    split at fine
    · cases fine
    · rename_i unharmed
      cases fine
      exact ⟨got, unharmed⟩
  · intro answered
    obtain ⟨got, fine⟩ := answered
    exact ⟨fetched, got, if_neg fine⟩

/-! The loop over the chunks. -/

theorem collect_append (held : Bytes) (chunks rest : List (Except ReqwestError Bytes)) :
    collect held (chunks ++ rest) = collect held chunks >>= fun body => collect body rest := by
  induction chunks generalizing held with
  | nil => rfl
  | cons chunk chunks ih =>
    rw [List.cons_append, collect, collect, bind_assoc]
    congr 1
    funext chunk
    rw [bind_assoc]
    congr 1
    funext _
    exact ih _

theorem collect_turn {held chunk body : Bytes} {chunks : List (Except ReqwestError Bytes)} :
    collect held (.ok chunk :: chunks) = .ok body ↔
      (held ++ chunk).length ≤ MAX_BUNDLE_BYTES ∧ collect (held ++ chunk) chunks = .ok body := by
  rw [collect, List.length_append, ← Nat.not_lt]
  simp only [Except.mapError, ok_bind, bind_ok, ensure_ok, exists_const]

/-- The loop ends well with the whole body, if that is not over the cap. -/
theorem collect_ok {held body : Bytes} {chunks : List (Except ReqwestError Bytes)}
    (fits : held.length ≤ MAX_BUNDLE_BYTES) :
    collect held chunks = .ok body ↔ ∃ bytes, readAll chunks = .ok bytes ∧ body = held ++ bytes ∧
      body.length ≤ MAX_BUNDLE_BYTES := by
  induction chunks generalizing held with
  | nil =>
    apply Iff.intro
    · intro ended
      have same : held = body := Except.ok.inj ended
      rw [← same]
      exact ⟨[], rfl, (List.append_nil held).symm, fits⟩
    · intro whole
      obtain ⟨bytes, read, same, _⟩ := whole
      cases read
      rw [same, List.append_nil]
      rfl
  | cons chunk chunks ih =>
    cases chunk with
    | error e =>
      apply Iff.intro
      · intro ended
        cases ended
      · intro whole
        obtain ⟨_, read, _⟩ := whole
        cases read
    | ok chunk =>
      rw [collect_turn]
      apply Iff.intro
      · intro went
        obtain ⟨room, ended⟩ := went
        obtain ⟨later, read, same, cap⟩ := (ih room).mp ended
        exact ⟨chunk ++ later, readAll_cons.mpr ⟨later, read, rfl⟩,
          same.trans (List.append_assoc held chunk later), cap⟩
      · intro whole
        obtain ⟨bytes, read, same, cap⟩ := whole
        obtain ⟨later, read, cut⟩ := readAll_cons.mp read
        have same : body = held ++ chunk ++ later := by
          rw [same, cut, List.append_assoc]
        have room : (held ++ chunk).length ≤ MAX_BUNDLE_BYTES := by
          rw [same, List.length_append] at cap
          omega
        exact ⟨room, (ih room).mpr ⟨later, read, same, cap⟩⟩

theorem collect_nil {body : Bytes} {chunks : List (Except ReqwestError Bytes)} :
    collect [] chunks = .ok body ↔ readAll chunks = .ok body ∧ body.length ≤ MAX_BUNDLE_BYTES := by
  rw [collect_ok (Nat.zero_le _)]
  apply Iff.intro
  · intro whole
    obtain ⟨bytes, read, same, cap⟩ := whole
    rw [List.nil_append] at same
    rw [same] at cap ⊢
    exact ⟨read, cap⟩
  · intro whole
    exact ⟨body, whole.1, rfl, whole.2⟩

theorem fetchBundle_ok {bundleFromStr : String → Except JsonError AttestationBundle} {base : String}
    {bundle : AttestationBundle} :
    fetchBundle bundleFromStr network base = .ok bundle ↔
      Publishes bundleFromStr network base bundle := by
  have announced (fetched : Fetched) : (¬ fetched.contentLength.any fun n => n > MAX_BUNDLE_BYTES) ↔
      ∀ n, fetched.contentLength = some n → n ≤ MAX_BUNDLE_BYTES := by
    cases fetched.contentLength <;> simp
  unfold fetchBundle Publishes
  simp only [bind_ok, getOk_ok, ensure_ok, collect_nil, mapError_ok, announced]
  apply Iff.intro
  · intro went
    obtain ⟨fetched, ⟨got, fine⟩, _, small, bytes, ⟨whole, cap⟩, text, decoded, parsed⟩ := went
    exact ⟨fetched, bytes, text, ⟨got, fine, whole⟩, small, cap, decoded, parsed⟩
  · intro published
    obtain ⟨fetched, bytes, text, answers, small, cap, decoded, parsed⟩ := published
    exact ⟨fetched, ⟨answers.got, answers.fine⟩, (), small, bytes, ⟨answers.whole, cap⟩, text, decoded,
      parsed⟩

variable {crates : Attest.Crates} {bundleFromStr : String → Except JsonError AttestationBundle}

theorem build_ok {builder : PpqClientBuilder} {client : PpqClient} :
    builder.build crates bundleFromStr network = .ok client ↔
      builder.apiKey = some client.apiKey ∧
      client.baseUrl = builder.baseUrl.getD DEFAULT_BASE_URL ∧
      (∃ u, network.httpClient = .ok u) ∧
      (∃ bundle, fetchBundle bundleFromStr network client.baseUrl = .ok bundle ∧
        verifyBundle crates network.now bundle (builder.trustPolicy.getD default) =
          .ok client.attestation) ∧
      ∃ advertised bytes config,
        getOk network s!"{client.baseUrl}/private/.well-known/hpke-keys" = .ok advertised ∧
        readAll advertised.body = .ok bytes ∧ parseKeyConfig bytes = .ok config ∧
        config.publicKey = client.attestation.hpkePublicKey := by
  unfold PpqClientBuilder.build attest
  simp only [bind_ok, okOr_ok, mapError_ok, ensure_ok]
  apply Iff.intro
  · intro built
    obtain ⟨apiKey, configured, u, connected, attestation, attested, advertised, got, bytes, read,
      config, parsed, _, agrees, same⟩ := built
    cases same
    exact ⟨configured, rfl, ⟨u, connected⟩, attested, advertised, bytes, config, got, read, parsed,
      agrees⟩
  · intro parts
    obtain ⟨configured, baseUrl, ⟨u, connected⟩, attested, advertised, bytes, config, got, read, parsed,
      agrees⟩ := parts
    rw [baseUrl] at attested got
    refine ⟨client.apiKey, configured, u, connected, client.attestation, attested, advertised, got,
      bytes, read, config, parsed, (), agrees, ?_⟩
    rw [← baseUrl]

/-- A client can be built exactly when there is a key, the bundle published below the base URL
stands every check of its bytes, and the key that it attests is the advertised one. -/
theorem build_exact (crates : Attest.Crates)
    (bundleFromStr : String → Except JsonError AttestationBundle) (builder : PpqClientBuilder)
    (network : Network) (client : PpqClient) :
    builder.build crates bundleFromStr network = .ok client ↔
      builder.apiKey = some client.apiKey ∧
      client.baseUrl = builder.baseUrl.getD DEFAULT_BASE_URL ∧
      (∃ u, network.httpClient = .ok u) ∧
      (∃ bundle, Publishes bundleFromStr network client.baseUrl bundle ∧
        ∃ raw parsed envelope cert statement key product,
          Sound crates network.now bundle (builder.trustPolicy.getD default) client.attestation raw
            parsed envelope cert statement key product ∧
          (product = .Genoa → ∀ der, crates.base64Decode bundle.vcek = .ok der →
            ∀ key', ¬ ChainsTo crates der .Milan key')) ∧
      Advertises network client.baseUrl client.attestation.hpkePublicKey := by
  rw [build_ok]
  apply and_congr_right
  intro _
  apply and_congr_right
  intro _
  apply and_congr_right
  intro _
  apply and_congr
  · apply exists_congr
    intro bundle
    rw [fetchBundle_ok, verifyBundle_ok, vouched_iff_sound]
  · simp only [getOk_ok, parse_ok]
    apply Iff.intro
    · intro advertised
      obtain ⟨fetched, bytes, config, ⟨got, fine⟩, whole, ⟨n, declares⟩, same⟩ := advertised
      exact ⟨fetched, bytes, config, n, ⟨got, fine, whole⟩, declares, same⟩
    · intro advertised
      obtain ⟨fetched, bytes, config, n, answers, declares, same⟩ := advertised
      exact ⟨fetched, bytes, config, ⟨answers.got, answers.fine⟩, answers.whole, ⟨n, declares⟩, same⟩

/-! Whoever answers may go on for ever. -/

/-- The same network, but behind what it answered at this URL there comes more. -/
def Network.extend (network : Network) (url : String) (rest : List (Except ReqwestError Bytes)) :
    Network :=
  { network with
    get := fun asked =>
      if asked = url then
        (network.get asked).map fun fetched => { fetched with body := fetched.body ++ rest }
      else network.get asked }

/-- What is announced and what has come at this URL is a good answer that is within the cap. -/
def Within (network : Network) (url : String) : Prop :=
  ∃ fetched bytes, Answers network url fetched bytes ∧
    (∀ n, fetched.contentLength = some n → n ≤ MAX_BUNDLE_BYTES) ∧ bytes.length ≤ MAX_BUNDLE_BYTES

theorem getOk_extend (network : Network) (url : String) (rest : List (Except ReqwestError Bytes)) :
    getOk (network.extend url rest) url =
      (getOk network url).map fun fetched => { fetched with body := fetched.body ++ rest } := by
  unfold getOk errorForStatus Network.extend
  simp only [if_true]
  cases network.get url with
  | error e => rfl
  | ok fetched =>
    by_cases fine : 400 ≤ fetched.status.code ∧ fetched.status.code < 600
    · simp only [Except.map, Except.mapError, ok_bind, if_pos fine]
    · simp only [Except.map, Except.mapError, ok_bind, if_neg fine]

/-- Of a body that went over the cap, or went wrong, the rest is not looked at. -/
theorem fetchBundle_extend (bundleFromStr : String → Except JsonError AttestationBundle)
    {base : String} (beyond : ¬ Within network s!"{base}/private/attestation") :
    ∃ e, ∀ rest, fetchBundle bundleFromStr
      (network.extend s!"{base}/private/attestation" rest) base = .error e := by
  unfold fetchBundle
  simp only [getOk_extend]
  cases got : getOk network s!"{base}/private/attestation" with
  | error e => exact ⟨e, fun rest => rfl⟩
  | ok fetched =>
    simp only [Except.map, ok_bind, collect_append]
    by_cases small : fetched.contentLength.any fun n => n > MAX_BUNDLE_BYTES
    · refine ⟨.attestation s!"attestation bundle advertises more than {MAX_BUNDLE_BYTES} bytes",
        fun rest => ?_⟩
      simp only [ensure, small]
      rfl
    cases collected : collect [] fetched.body with
    | error e =>
      refine ⟨e, fun rest => ?_⟩
      simp only [ensure, small]
      rfl
    | ok bytes =>
      obtain ⟨whole, cap⟩ := collect_nil.mp collected
      obtain ⟨answered, fine⟩ := getOk_ok.mp got
      refine absurd ⟨fetched, bytes, ⟨answered, fine, whole⟩, ?_, cap⟩ beyond
      intro n announced
      rw [announced] at small
      simpa using small

/-- Who serves the bundle cannot make a build hold more of it than the cap: as long as what came is
within, it is a whole good answer so far, and otherwise the build has failed, whatever else would
have come. -/
theorem build_bounded (crates : Attest.Crates)
    (bundleFromStr : String → Except JsonError AttestationBundle) (builder : PpqClientBuilder)
    (network : Network) :
    Within network s!"{builder.baseUrl.getD DEFAULT_BASE_URL}/private/attestation" ∨
      ∃ e, ∀ rest, builder.build crates bundleFromStr (network.extend
        s!"{builder.baseUrl.getD DEFAULT_BASE_URL}/private/attestation" rest) = .error e := by
  by_cases within : Within network s!"{builder.baseUrl.getD DEFAULT_BASE_URL}/private/attestation"
  · exact .inl within
  apply Or.inr
  obtain ⟨e, fails⟩ := fetchBundle_extend bundleFromStr within
  cases configured : builder.apiKey with
  | none =>
    refine ⟨.attestation "no API key configured", fun rest => ?_⟩
    unfold PpqClientBuilder.build
    rw [configured]
    rfl
  | some apiKey =>
    cases connected : network.httpClient with
    | error e =>
      refine ⟨.http e, fun rest => ?_⟩
      unfold PpqClientBuilder.build Network.extend
      simp only [configured, connected]
      rfl
    | ok u =>
      refine ⟨e, fun rest => ?_⟩
      unfold PpqClientBuilder.build attest
      have connected' : (network.extend
        s!"{builder.baseUrl.getD DEFAULT_BASE_URL}/private/attestation" rest).httpClient = .ok u :=
        connected
      rw [configured, connected']
      simp only [fails rest]
      rfl

end PpqTee.Client
