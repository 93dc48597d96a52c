import PpqTee.Attest.Bundle
import PpqTee.Client
import PpqTee.Ehbp.Keyconfig

/-! Building a client: fetch the bundle and verify it, then hold the advertised key against the
attested one. This is the only place attestation happens. -/

namespace PpqTee.Client
open Attest

def DEFAULT_BASE_URL : String := "https://api.ppq.ai"

def MAX_BUNDLE_BYTES : Nat := 1024 * 1024

/-- The answer to a GET; a header may announce its length. -/
structure Fetched where
  status : StatusCode
  contentLength : Option Nat
  body : List (Except ReqwestError Bytes)

/-- What one build meets: its HTTP client, what that makes of its requests, redirects followed, and
the clock. -/
structure Network where
  httpClient : Except ReqwestError Unit
  get : (url : String) → Except ReqwestError Fetched
  statusError : (url : String) → StatusCode → ReqwestError
  now : Int

structure PpqClientBuilder where
  apiKey : Option String
  baseUrl : Option String
  trustPolicy : Option TrustPolicy
  deriving DecidableEq, Repr

def errorForStatus (network : Network) (url : String) (fetched : Fetched) :
    Except ReqwestError Fetched :=
  if 400 ≤ fetched.status.code ∧ fetched.status.code < 600 then
    .error (network.statusError url fetched.status)
  else .ok fetched

def getOk (network : Network) (url : String) : Result Fetched := do
  let fetched ← (network.get url).mapError .http
  (errorForStatus network url fetched).mapError .http

/-- The cap holds for what is received, whatever was announced. -/
def collect : Bytes → List (Except ReqwestError Bytes) → Result Bytes
  | body, [] => .ok body
  | body, chunk :: rest => do
    let chunk ← chunk.mapError .http
    ensure (¬ body.length + chunk.length > MAX_BUNDLE_BYTES)
      (.attestation s!"attestation bundle is larger than {MAX_BUNDLE_BYTES} bytes")
    collect (body ++ chunk) rest

/-- `bundle::fetch`. -/
def fetchBundle (bundleFromStr : String → Except JsonError AttestationBundle) (network : Network)
    (base : String) : Result AttestationBundle := do
  let resp ← getOk network s!"{base}/private/attestation"
  ensure (¬ resp.contentLength.any fun n => n > MAX_BUNDLE_BYTES)
    (.attestation s!"attestation bundle advertises more than {MAX_BUNDLE_BYTES} bytes")
  let body ← collect [] resp.body
  let text ← (fromUtf8 body).mapError fun e =>
    .attestation s!"attestation bundle is not UTF-8: {e}"
  (bundleFromStr text).mapError .json

/-- `attest::attest`. -/
def attest (crates : Attest.Crates) (bundleFromStr : String → Except JsonError AttestationBundle)
    (network : Network) (base : String) (policy : TrustPolicy) : Result Attestation := do
  let bundle ← fetchBundle bundleFromStr network base
  verifyBundle crates network.now bundle policy

def PpqClientBuilder.build (crates : Attest.Crates)
    (bundleFromStr : String → Except JsonError AttestationBundle) (builder : PpqClientBuilder)
    (network : Network) : Result PpqClient := do
  let apiKey ← okOr builder.apiKey (.attestation "no API key configured")
  let baseUrl := builder.baseUrl.getD DEFAULT_BASE_URL
  let policy := builder.trustPolicy.getD default
  network.httpClient.mapError .http
  let attestation ← attest crates bundleFromStr network baseUrl policy
  let advertised ← getOk network s!"{baseUrl}/private/.well-known/hpke-keys"
  let bytes ← (readAll advertised.body).mapError .http
  let config ← Ehbp.parseKeyConfig bytes
  ensure (config.publicKey = attestation.hpkePublicKey)
    (.attestation "advertised HPKE key does not match the attested key")
  .ok { baseUrl, apiKey, attestation }

theorem noSuccess_of_attestation (e : Error) (attests : IsAttestation e) : NoSuccess e := by
  cases e with
  | attestation message => trivial
  | _ => cases attests

theorem getOk_fails (network : Network) (url : String) : Fails NoSuccess (getOk network url) := by
  unfold getOk
  exact .bindMapError (fun _ => trivial) fun fetched => .mapError fun _ => trivial

theorem collect_fails (body : Bytes) (chunks : List (Except ReqwestError Bytes)) :
    Fails NoSuccess (collect body chunks) := by
  induction chunks generalizing body with
  | nil => exact .ok body
  | cons chunk rest ih =>
    unfold collect
    exact .bindMapError (fun _ => trivial) fun chunk => .bindEnsure trivial (ih _)

/-- A client that cannot be built is not reported by an error with a success status. -/
theorem build_fails (crates : Attest.Crates)
    (bundleFromStr : String → Except JsonError AttestationBundle) (builder : PpqClientBuilder)
    (network : Network) : Fails NoSuccess (builder.build crates bundleFromStr network) := by
  unfold PpqClientBuilder.build attest fetchBundle
  refine .bindOkOr trivial fun apiKey => ?_
  refine .bindMapError (fun _ => trivial) fun _ => ?_
  refine .bind (.bind ?_ fun bundle => ?_) fun attestation => ?_
  · apply Fails.bind (getOk_fails network _)
    intro resp
    refine .bindEnsure trivial ?_
    apply Fails.bind (collect_fails [] _)
    intro body
    exact .bindMapError (fun _ => trivial) fun text => .mapError fun _ => trivial
  · exact (verify_bundle_refuses network.now bundle _).weaken noSuccess_of_attestation
  · apply Fails.bind (getOk_fails network _)
    intro advertised
    refine .bindMapError (fun _ => trivial) fun bytes => ?_
    exact .bind (Ehbp.parseKeyConfig_fails bytes) fun config => .bindEnsure trivial (.ok _)

end PpqTee.Client
