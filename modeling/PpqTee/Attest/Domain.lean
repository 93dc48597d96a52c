import PpqTee.Attest.Crates

/-! Checking the claimed domain against the enclave certificate. Nobody verifies who issued the
certificate, so this guards against a misconfiguration and attests to nothing. -/

namespace PpqTee.Attest

/-- A name with no wildcard in it, no empty label, and nothing but ASCII. -/
def isPlainName (s : String) : Bool :=
  s ≠ "" && isAscii s && '*' ∉ s.toList && (split s '.').all fun label => label ≠ ""

/-- Does the `dNSName` entry `pattern` match the host? -/
def dnsNameMatches (pattern host : String) : Bool :=
  if ¬ isPlainName host then false
  else
    match stripPrefix pattern "*." with
    | none => isPlainName pattern && eqIgnoreAsciiCase pattern host
    | some suffix =>
      if ¬ isPlainName suffix then false
      -- a wildcard for a whole registry covers nothing
      else if (split suffix '.').length < 2 then false
      else
        match splitOnce host '.' with
        | none => false
        | some (_, rest) => eqIgnoreAsciiCase rest suffix

variable (crates : Crates)

def checkKeyBinding (cert : Certificate) (tlsKeyFingerprint : Vector UInt8 32) : Result Unit := do
  let spki ← (crates.spkiToDer cert.tbsCertificate.subjectPublicKeyInfo).mapError fun e =>
    .attestation s!"cannot re-encode enclave certificate SPKI: {e}"
  let digest := crates.sha256 spki
  ensure (digest = tlsKeyFingerprint) (.attestation
    s!"enclave certificate does not match the attested TLS key fingerprint: its SubjectPublicKeyInfo hashes to {crates.hexEncode digest.toList}, the report says {crates.hexEncode tlsKeyFingerprint.toList}")

def dnsNames (san : List GeneralName) : List String :=
  san.filterMap fun
    | .dnsName name => some name
    | .other _ => none

def checkDomainCovered (cert : Certificate) (domain : String) : Result Unit := do
  let extension ← (crates.subjectAltName cert.tbsCertificate).mapError fun e =>
    .attestation s!"enclave certificate's subjectAltName is unusable: {e}"
  let san ← okOr extension (.attestation
    s!"enclave certificate has no subjectAltName, so it cannot cover domain {crates.debugStr domain}")
  let names := dnsNames san.2
  let listed := "[" ++ ", ".intercalate (names.map crates.debugStr) ++ "]"
  let hint :=
    if isPlainName domain then ""
    else " (names are compared verbatim: a trailing dot, an empty label, a wildcard or a non-ASCII name is refused rather than normalised)"
  ensure (names.any fun pattern => dnsNameMatches pattern domain) (.attestation
    s!"enclave certificate does not cover domain {crates.debugStr domain}; its dNSName entries are {listed}{hint}")

/-- The key first: until it is bound, the names are just more untrusted input. -/
def checkEnclaveCertificate (certPem domain : String) (tlsKeyFingerprint : Vector UInt8 32) :
    Result Unit := do
  let cert ← (crates.fromPem (utf8 certPem)).mapError fun e =>
    .attestation s!"enclave certificate is not a PEM certificate: {e}"
  checkKeyBinding crates cert tlsKeyFingerprint
  checkDomainCovered crates cert domain

/-- The certificate carries the attested key, and one of its names covers the domain. -/
structure Covers (certPem domain : String) (tlsKeyFingerprint : Bytes) (cert : Certificate) :
    Prop where
  parses : crates.fromPem (utf8 certPem) = .ok cert
  key : ∃ spki, crates.spkiToDer cert.tbsCertificate.subjectPublicKeyInfo = .ok spki ∧
    (crates.sha256 spki).toList = tlsKeyFingerprint
  name : ∃ san pattern, crates.subjectAltName cert.tbsCertificate = .ok (some san) ∧
    .dnsName pattern ∈ san.2 ∧ dnsNameMatches pattern domain = true

variable {crates}

theorem mem_dnsNames {san : List GeneralName} {name : String} :
    name ∈ dnsNames san ↔ .dnsName name ∈ san := by
  unfold dnsNames
  rw [List.mem_filterMap]
  constructor
  · intro listed
    obtain ⟨entry, member, same⟩ := listed
    cases entry <;> cases same
    exact member
  · intro member
    exact ⟨_, member, rfl⟩

theorem checkEnclaveCertificate_ok {certPem domain : String}
    {tlsKeyFingerprint : Vector UInt8 32} {u : Unit} :
    checkEnclaveCertificate crates certPem domain tlsKeyFingerprint = .ok u ↔
      ∃ cert, Covers crates certPem domain tlsKeyFingerprint.toList cert := by
  simp only [checkEnclaveCertificate, checkKeyBinding, checkDomainCovered, bind_ok, ensure_ok,
    okOr_ok, mapError_ok, List.any_eq_true, mem_dnsNames]
  constructor
  · intro accepted
    obtain ⟨cert, parses, _, ⟨spki, encoded, bound⟩, extension, unique, san, present, pattern,
      listed, covers⟩ := accepted
    subst present
    exact ⟨cert, parses, ⟨spki, encoded, congrArg Vector.toList bound⟩,
      ⟨san, pattern, unique, listed, covers⟩⟩
  · intro covered
    obtain ⟨cert, parses, ⟨spki, encoded, bound⟩, san, pattern, unique, listed, covers⟩ := covered
    exact ⟨cert, parses, (), ⟨spki, encoded, Vector.toList_inj.mp bound⟩, _, unique, san, rfl,
      pattern, listed, covers⟩

theorem checkEnclaveCertificate_refuses (certPem domain : String)
    (tlsKeyFingerprint : Vector UInt8 32) :
    Fails IsAttestation (checkEnclaveCertificate crates certPem domain tlsKeyFingerprint) := by
  unfold checkEnclaveCertificate
  refine .bindMapError (fun _ => trivial) fun cert => ?_
  refine .bind (.bindMapError (fun _ => trivial) fun spki => .ensure trivial) fun _ => ?_
  refine .bindMapError (fun _ => trivial) fun extension => ?_
  exact .bindOkOr trivial fun san => .ensure trivial

end PpqTee.Attest
