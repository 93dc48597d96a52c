import PpqTee.Attest.Crates

/-! What the enclave is supposed to be running, by the signed build attestation. Points in time
are nanoseconds since the Unix epoch, which the clock may stand before. -/

namespace PpqTee.Attest

def GITHUB_WORKFLOW_REPOSITORY_OID : ObjectIdentifier := [1, 3, 6, 1, 4, 1, 57264, 1, 5]

def PREDICATE_TYPE : String := "https://tinfoil.sh/predicate/snp-tdx-multiplatform/v1"

def FUTURE_TOLERANCE : Nat := Duration.fromSecs 300

structure DeploymentPredicate where
  snpMeasurement : Bytes
  deriving DecidableEq, Repr

/-- `UNIX_EPOCH.checked_add`; the seconds of a `SystemTime` are an `i64`. -/
def checkedAddEpoch (secs : Nat) : Option Int :=
  if secs < 2 ^ 63 then some (Duration.fromSecs secs) else none

variable (crates : Crates)

def rekorIntegratedTime (bundle : AttestationBundle) : Result Int := do
  let entries := (bundle.sigstoreBundle.key "verificationMaterial").key "tlogEntries"
  let raw ← okOr ((entries.index 0).key "integratedTime").asStr
    (.attestation "rekor entry has no (string) integratedTime")
  let secs ← (parseU64 raw).mapError fun e => .attestation
    s!"rekor integratedTime {crates.debugStr raw} is not a valid unix timestamp: {e}"
  okOr (checkedAddEpoch secs) (.attestation
    s!"rekor integratedTime {crates.debugStr raw} is too far in the future to represent")

/-- The age check at the time `now`. A time in the future has no age, and one before `now` no
skew. -/
def checkAttestationAge (now integratedAt : Int) (maxAge : Option Nat) : Result Unit := do
  let skew := (integratedAt - now).toNat
  ensure (¬ skew > FUTURE_TOLERANCE) (.attestation
    s!"rekor integratedTime is {Duration.debug skew} in the future, want at most {Duration.debug FUTURE_TOLERANCE} of clock skew")
  match maxAge with
  | none => .ok ()
  | some maxAge => do
    let age := (now - integratedAt).toNat
    ensure (¬ age > maxAge) (.attestation
      s!"attestation is {Duration.debug age} old, want at most {Duration.debug maxAge}")

def dsseEnvelope : SignatureContent → Result DsseEnvelope
  | .dsseEnvelope envelope => .ok envelope
  | .messageSignature => .error (.attestation "sigstore bundle is not a DSSE envelope")

def leafCertificate (bundle : crates.Bundle) : Result Certificate := do
  let der ← okOr (crates.signingCertificate bundle)
    (.attestation "bundle carries no signing certificate")
  (crates.fromDer der).mapError fun e => .attestation s!"signing certificate is malformed: {e}"

/-- Two claims that contradict each other are refused, not matched on the first. -/
def signerRepository (cert : Certificate) : Result String :=
  match (cert.tbsCertificate.extensions.getD []).filter
    (fun ext => ext.extnId = GITHUB_WORKFLOW_REPOSITORY_OID) with
  | [ext] => (fromUtf8 ext.extnValue).mapError fun e =>
      .attestation s!"repository extension is not UTF-8: {e}"
  | _ => .error (.attestation
      "signing certificate does not have exactly one GitHub workflow repository extension")

def checkSubject0Digest (statement : Value) (bundleDigest : String) : Result Unit := do
  let subject := (statement.key "subject").index 0
  let subjectDigest ← okOr ((subject.key "digest").key "sha256").asStr
    (.attestation "statement has no subject digest")
  ensure (subjectDigest = bundleDigest) (.attestation
    s!"statement subject {subjectDigest} does not match bundle digest {bundleDigest}")

/-- `sigstore::verify`, at the time `now`. -/
def verifyDeployment (now : Int) (bundle : AttestationBundle) (policy : TrustPolicy) :
    Result DeploymentPredicate := do
  ensure (policy.signerRepository ≠ "")
    (.attestation "policy signer_repository must not be empty")
  let parsed ← (crates.bundleFromValue bundle.sigstoreBundle).mapError fun e =>
    .attestation s!"sigstore bundle is malformed: {e}"
  let integratedAt ← rekorIntegratedTime crates bundle
  checkAttestationAge now integratedAt policy.maxAttestationAge
  let envelope ← dsseEnvelope (crates.content parsed)
  -- the verifier is content with one valid signature among several
  ensure (envelope.signatures.length = 1) (.attestation
    s!"DSSE envelope has {envelope.signatures.length} signatures, want exactly 1")
  let digest ← (crates.hexDecode bundle.digest).mapError fun e =>
    .attestation s!"bundle digest is not hex: {e}"
  let root ← (crates.trustedRootFromJson crates.SIGSTORE_TRUSTED_ROOT).mapError fun e =>
    .attestation s!"embedded trusted root is invalid: {e}"
  (crates.verifyBundle root digest parsed policy.oidcIssuer).mapError fun e =>
    .attestation s!"sigstore verification failed: {e}"
  let cert ← leafCertificate crates parsed
  let repository ← signerRepository cert
  ensure (repository = policy.signerRepository) (.attestation
    s!"attestation was signed from {repository}, want {policy.signerRepository}")
  let statement ← (crates.jsonFromSlice envelope.payload).mapError fun e =>
    .attestation s!"dsse payload is not JSON: {e.message}"
  checkSubject0Digest statement bundle.digest
  let predicateType ← okOr (statement.key "predicateType").asStr
    (.attestation "statement has no predicateType")
  ensure (predicateType = PREDICATE_TYPE)
    (.attestation s!"statement predicateType is {predicateType}, want {PREDICATE_TYPE}")
  let measurement ← okOr ((statement.key "predicate").key "snp_measurement").asStr
    (.attestation "predicate has no snp_measurement")
  let snpMeasurement ← (crates.hexDecode measurement).mapError fun e =>
    .attestation s!"snp_measurement is not hex: {e}"
  ensure (snpMeasurement.length = 48)
    (.attestation s!"snp_measurement is {snpMeasurement.length} bytes, want 48")
  .ok { snpMeasurement }

/-- The time of the first transparency log entry is neither stale nor in the future. -/
def Fresh (now : Int) (bundle : AttestationBundle) (maxAge : Option Nat) : Prop :=
  ∃ raw secs,
    ((((bundle.sigstoreBundle.key "verificationMaterial").key "tlogEntries").index 0).key
      "integratedTime") = .string raw ∧ parseU64 raw = .ok secs ∧ secs < 2 ^ 63 ∧
    (Duration.fromSecs secs : Int) ≤ now + FUTURE_TOLERANCE ∧
    ∀ age, maxAge = some age → now - age ≤ Duration.fromSecs secs

/-- The certificate carries exactly one claim of a repository. -/
def IssuedTo (cert : Certificate) (repository : String) : Prop :=
  ∃ ext, (cert.tbsCertificate.extensions.getD []).filter
    (fun ext => ext.extnId = GITHUB_WORKFLOW_REPOSITORY_OID) = [ext] ∧
    fromUtf8 ext.extnValue = .ok repository

/-- What `sigstore::verify` asks of a bundle. -/
structure Deployed (now : Int) (bundle : AttestationBundle) (policy : TrustPolicy)
    (parsed : crates.Bundle) (envelope : DsseEnvelope) (cert : Certificate) (statement : Value)
    (snpMeasurement : Bytes) : Prop where
  pinned : policy.signerRepository ≠ ""
  parses : crates.bundleFromValue bundle.sigstoreBundle = .ok parsed
  fresh : Fresh now bundle policy.maxAttestationAge
  content : crates.content parsed = .dsseEnvelope envelope
  signedOnce : envelope.signatures.length = 1
  verified : ∃ digest root, crates.hexDecode bundle.digest = .ok digest ∧
    crates.trustedRootFromJson crates.SIGSTORE_TRUSTED_ROOT = .ok root ∧
    crates.verifyBundle root digest parsed policy.oidcIssuer = .ok ()
  leaf : ∃ der, crates.signingCertificate parsed = some der ∧ crates.fromDer der = .ok cert
  repository : IssuedTo cert policy.signerRepository
  payload : crates.jsonFromSlice envelope.payload = .ok statement
  subject : (((statement.key "subject").index 0).key "digest").key "sha256" = .string bundle.digest
  predicateType : statement.key "predicateType" = .string PREDICATE_TYPE
  measurement : ∃ text, (statement.key "predicate").key "snp_measurement" = .string text ∧
    crates.hexDecode text = .ok snpMeasurement
  measurementSize : snpMeasurement.length = 48

variable {crates}

theorem checkAttestationAge_ok {now integratedAt : Int} {maxAge : Option Nat} {u : Unit} :
    checkAttestationAge now integratedAt maxAge = .ok u ↔
      integratedAt ≤ now + FUTURE_TOLERANCE ∧
        ∀ age, maxAge = some age → now - age ≤ integratedAt := by
  simp only [checkAttestationAge, bind_ok, ensure_ok]
  cases maxAge with
  | none =>
    constructor
    · intro accepted
      obtain ⟨_, early, _⟩ := accepted
      exact ⟨by omega, fun age given => by cases given⟩
    · intro young
      obtain ⟨early, _⟩ := young
      exact ⟨(), by omega, rfl⟩
  | some limit =>
    simp only [ensure_ok, Option.some.injEq]
    constructor
    · intro accepted
      obtain ⟨_, early, young⟩ := accepted
      refine ⟨by omega, ?_⟩
      intro age given
      omega
    · intro fresh
      obtain ⟨early, young⟩ := fresh
      have := young limit rfl
      exact ⟨(), by omega, by omega⟩

theorem checkedAddEpoch_some {secs : Nat} {t : Int} :
    checkedAddEpoch secs = some t ↔ secs < 2 ^ 63 ∧ t = Duration.fromSecs secs := by
  unfold checkedAddEpoch
  by_cases fits : secs < 2 ^ 63
  · rw [if_pos fits, Option.some.injEq]
    exact ⟨fun same => ⟨fits, same.symm⟩, fun both => both.2.symm⟩
  · rw [if_neg fits]
    exact ⟨fun none => (by cases none), fun both => absurd both.1 fits⟩

theorem fresh_iff {now : Int} {bundle : AttestationBundle} {maxAge : Option Nat} :
    (∃ integratedAt, rekorIntegratedTime crates bundle = .ok integratedAt ∧
      ∃ u, checkAttestationAge now integratedAt maxAge = .ok u) ↔ Fresh now bundle maxAge := by
  simp only [rekorIntegratedTime, bind_ok, okOr_ok, mapError_ok, Value.asStr_eq,
    checkedAddEpoch_some, checkAttestationAge_ok]
  constructor
  · intro accepted
    obtain ⟨_, ⟨raw, same, secs, read, fits, rfl⟩, _, early, young⟩ := accepted
    exact ⟨raw, secs, same, read, fits, early, young⟩
  · intro fresh
    obtain ⟨raw, secs, same, read, fits, early, young⟩ := fresh
    exact ⟨_, ⟨raw, same, secs, read, fits, rfl⟩, (), early, young⟩

theorem signerRepository_ok {cert : Certificate} {repository : String} :
    signerRepository cert = .ok repository ↔ IssuedTo cert repository := by
  unfold signerRepository IssuedTo
  split
  · rename_i ext only
    simp only [only, mapError_ok, List.cons.injEq, and_true, exists_eq_left']
  · rename_i several
    constructor
    · intro accepted
      cases accepted
    · intro only
      obtain ⟨ext, only, _⟩ := only
      exact absurd only (several ext)

theorem dsseEnvelope_ok {content : SignatureContent} {envelope : DsseEnvelope} :
    dsseEnvelope content = .ok envelope ↔ content = .dsseEnvelope envelope := by
  cases content <;> simp [dsseEnvelope]

theorem leafCertificate_ok {bundle : crates.Bundle} {cert : Certificate} :
    leafCertificate crates bundle = .ok cert ↔
      ∃ der, crates.signingCertificate bundle = some der ∧ crates.fromDer der = .ok cert := by
  simp only [leafCertificate, bind_ok, okOr_ok, mapError_ok]

theorem checkSubject0Digest_ok {statement : Value} {bundleDigest : String} {u : Unit} :
    checkSubject0Digest statement bundleDigest = .ok u ↔
      (((statement.key "subject").index 0).key "digest").key "sha256" = .string bundleDigest := by
  simp only [checkSubject0Digest, bind_ok, okOr_ok, ensure_ok, Value.asStr_eq,
    exists_eq_right]

theorem verifyDeployment_ok {now : Int} {bundle : AttestationBundle} {policy : TrustPolicy}
    {deployment : DeploymentPredicate} :
    verifyDeployment crates now bundle policy = .ok deployment ↔
      ∃ parsed envelope cert statement,
        Deployed crates now bundle policy parsed envelope cert statement
          deployment.snpMeasurement := by
  simp only [verifyDeployment, bind_ok, ensure_ok, okOr_ok, mapError_ok, Value.asStr_eq,
    dsseEnvelope_ok, leafCertificate_ok, signerRepository_ok, checkSubject0Digest_ok]
  constructor
  · intro accepted
    obtain ⟨_, pinned, parsed, parses, integratedAt, time, _, aged, envelope, content, _,
      signedOnce, digest, decoded, root, trusted, _, verified, cert, leaf, repository, issued, _,
      same, statement, payload, _, subject, predicateType, typed, _, pinnedType, text, named,
      measurement, hex, _, size, made⟩ := accepted
    cases made
    subst same pinnedType
    exact ⟨parsed, envelope, cert, statement,
      { pinned := pinned
        parses := parses
        fresh := fresh_iff.mp ⟨integratedAt, time, _, aged⟩
        content := content
        signedOnce := signedOnce
        verified := ⟨digest, root, decoded, trusted, verified⟩
        leaf := leaf
        repository := issued
        payload := payload
        subject := subject
        predicateType := typed
        measurement := ⟨text, named, hex⟩
        measurementSize := size }⟩
  · intro attested
    obtain ⟨parsed, envelope, cert, statement, deployed⟩ := attested
    obtain ⟨integratedAt, time, _, aged⟩ := fresh_iff.mpr deployed.fresh
    obtain ⟨digest, root, decoded, trusted, verified⟩ := deployed.verified
    obtain ⟨text, named, hex⟩ := deployed.measurement
    exact ⟨(), deployed.pinned, parsed, deployed.parses, integratedAt, time, _, aged, envelope,
      deployed.content, (), deployed.signedOnce, digest, decoded, root, trusted, (), verified, cert,
      deployed.leaf, _, deployed.repository, (), rfl, statement, deployed.payload, (),
      deployed.subject, _, deployed.predicateType, (), rfl, text, named, _, hex, (),
      deployed.measurementSize, rfl⟩

theorem rekorIntegratedTime_refuses (bundle : AttestationBundle) :
    Fails IsAttestation (rekorIntegratedTime crates bundle) := by
  unfold rekorIntegratedTime
  refine .bindOkOr trivial fun raw => ?_
  exact .bindMapError (fun _ => trivial) fun secs => .okOr trivial

theorem checkAttestationAge_refuses (now integratedAt : Int) (maxAge : Option Nat) :
    Fails IsAttestation (checkAttestationAge now integratedAt maxAge) := by
  unfold checkAttestationAge
  refine .bindEnsure trivial ?_
  cases maxAge with
  | none => exact .ok ()
  | some limit => exact .ensure trivial

theorem dsseEnvelope_refuses (content : SignatureContent) :
    Fails IsAttestation (dsseEnvelope content) := by
  cases content with
  | dsseEnvelope envelope => exact .ok envelope
  | messageSignature => exact .error trivial

theorem signerRepository_refuses (cert : Certificate) :
    Fails IsAttestation (signerRepository cert) := by
  unfold signerRepository
  split
  · exact .mapError fun _ => trivial
  · exact .error trivial

theorem verifyDeployment_refuses (now : Int) (bundle : AttestationBundle) (policy : TrustPolicy) :
    Fails IsAttestation (verifyDeployment crates now bundle policy) := by
  unfold verifyDeployment
  refine .bindEnsure trivial ?_
  refine .bindMapError (fun _ => trivial) fun parsed => ?_
  apply Fails.bind (rekorIntegratedTime_refuses bundle)
  intro integratedAt
  apply Fails.bind (checkAttestationAge_refuses now integratedAt _)
  intro _
  apply Fails.bind (dsseEnvelope_refuses _)
  intro envelope
  refine .bindEnsure trivial ?_
  refine .bindMapError (fun _ => trivial) fun digest => ?_
  refine .bindMapError (fun _ => trivial) fun root => ?_
  refine .bindMapError (fun _ => trivial) fun _ => ?_
  refine .bind (.bindOkOr trivial fun der => .mapError fun _ => trivial) fun cert => ?_
  apply Fails.bind (signerRepository_refuses cert)
  intro repository
  refine .bindEnsure trivial ?_
  refine .bindMapError (fun _ => trivial) fun statement => ?_
  refine .bind (.bindOkOr trivial fun digest => .ensure trivial) fun _ => ?_
  refine .bindOkOr trivial fun predicateType => ?_
  refine .bindEnsure trivial ?_
  refine .bindOkOr trivial fun text => ?_
  refine .bindMapError (fun _ => trivial) fun measurement => ?_
  exact .bindEnsure trivial (.ok _)

end PpqTee.Attest
