import PpqTee.Attest.Domain
import PpqTee.Attest.Sigstore
import PpqTee.Attest.Verify

/-! Verifying a whole bundle. The certificate check reads a report that means nothing before its
signature and its measurement have been checked, so it comes last. -/

namespace PpqTee.Attest
open LittleEndian

def SNP_REPORT_SIZE : Nat := 0x4A0

variable (crates : Crates)

/-- One byte more than a report is read, to refuse a longer stream and not cut it. -/
def decodeReportBody (body : String) : Result Bytes := do
  let gz ← (crates.base64Decode body).mapError fun e =>
    .attestation s!"report body is not base64: {e}"
  let out ← (crates.gunzip (SNP_REPORT_SIZE + 1) gz).mapError fun e =>
    .attestation s!"report body is not gzip: {e}"
  ensure (¬ out.length > SNP_REPORT_SIZE)
    (.attestation s!"report body decompressed to more than {SNP_REPORT_SIZE} bytes")
  .ok out

/-- The first product line whose root the VCEK chains to. -/
def findProduct (vcekDer : Bytes) : Option (crates.VerifyingKey × AmdProduct) :=
  [AmdProduct.Milan, .Genoa, .Turin].findSome? fun product =>
    (verifyChain crates vcekDer product).toOption.map fun key => (key, product)

/-- `verify_bundle`, at the time `now`. -/
def verifyBundle (now : Int) (bundle : AttestationBundle) (policy : TrustPolicy) :
    Result Attestation := do
  let deployment ← verifyDeployment crates now bundle policy
  let raw ← decodeReportBody crates bundle.enclaveAttestationReport.body
  let report ← parseReport raw
  let vcekDer ← (crates.base64Decode bundle.vcek).mapError fun e =>
    .attestation s!"VCEK is not base64: {e}"
  let (vcek, product) ← okOr (findProduct crates vcekDer)
    (.attestation "VCEK does not chain to any known AMD root (Milan, Genoa, Turin)")
  verifyReport crates report vcek deployment.snpMeasurement policy product
  (if policy.checkEnclaveCertificate then
    checkEnclaveCertificate crates bundle.enclaveCert bundle.domain report.tlsKeyFingerprint
  else .ok ())
  .ok
    { hpkePublicKey := report.hpkePublicKey
      tlsKeyFingerprint := report.tlsKeyFingerprint
      measurement := report.measurement
      domain := bundle.domain }

/-- What a successful verification establishes: of one report `raw`, of one build attestation
and of one key that signed the report. -/
structure Sound (now : Int) (bundle : AttestationBundle) (policy : TrustPolicy) (a : Attestation)
    (raw : Bytes) (parsed : crates.Bundle) (envelope : DsseEnvelope) (cert : Certificate)
    (statement : Value) (key : crates.VerifyingKey) (product : AmdProduct) : Prop where
  deployment : Deployed crates now bundle policy parsed envelope cert statement
    (slice raw 0x90 0xC0)
  decoded : ∃ gz, crates.base64Decode bundle.enclaveAttestationReport.body = .ok gz ∧
    crates.gunzip 0x4A1 gz = .ok raw
  size : raw.length = 0x4A0
  version : 2 ≤ ofBytes (slice raw 0x00 0x04)
  chain : ∃ der, crates.base64Decode bundle.vcek = .ok der ∧ ChainsTo crates der product key
  family : product = .Milan ∨ product = .Genoa
  signed : ∃ r s sig, Vector.toList r = (slice raw 0x2A0 0x2D0).reverse ∧
    Vector.toList s = (slice raw 0x2E8 0x318).reverse ∧
    crates.signatureFromScalars r s = .ok sig ∧ crates.verify key (slice raw 0 0x2A0) sig = .ok ()
  debug : policy.requireDebugDisabled = true → (ofBytes (slice raw 0x08 0x10)).testBit 19 = false
  vmpl : ofBytes (slice raw 0x30 0x34) = 0
  tcb : ∀ i ∈ [0, 1, 6, 7], raw.getD (0x1E0 + i) 0 ≤ raw.getD (0x180 + i) 0
  certificate : policy.checkEnclaveCertificate = true →
    ∃ cert, Covers crates bundle.enclaveCert bundle.domain (slice raw 0x50 0x70) cert
  hpkePublicKey : a.hpkePublicKey.toList = slice raw 0x70 0x90
  tlsKeyFingerprint : a.tlsKeyFingerprint.toList = slice raw 0x50 0x70
  measurement : a.measurement.toList = slice raw 0x90 0xC0
  domain : a.domain = bundle.domain

variable {crates}

theorem decodeReportBody_ok {body : String} {raw : Bytes} :
    decodeReportBody crates body = .ok raw ↔ raw.length ≤ SNP_REPORT_SIZE ∧
      ∃ gz, crates.base64Decode body = .ok gz ∧
        crates.gunzip (SNP_REPORT_SIZE + 1) gz = .ok raw := by
  simp only [decodeReportBody, bind_ok, ensure_ok, mapError_ok, Nat.not_lt]
  constructor
  · intro decoded
    obtain ⟨gz, base64, out, gzip, _, fits, same⟩ := decoded
    cases same
    exact ⟨fits, gz, base64, gzip⟩
  · intro decoded
    obtain ⟨fits, gz, base64, gzip⟩ := decoded
    exact ⟨gz, base64, raw, gzip, (), fits, rfl⟩

theorem findProduct_some {vcekDer : Bytes} {key : crates.VerifyingKey} {product : AmdProduct}
    (found : findProduct crates vcekDer = some (key, product)) :
    ChainsTo crates vcekDer product key := by
  obtain ⟨product', _, chained⟩ := List.exists_of_findSome?_eq_some found
  obtain ⟨key', verified, same⟩ := Option.map_eq_some_iff.mp chained
  cases same
  exact verifyChain_ok.mp (toOption_ok.mp verified)

theorem known_of_ne_turin {product : AmdProduct} (other : product ≠ .Turin) :
    product = .Milan ∨ product = .Genoa := by
  cases product with
  | Milan => exact .inl rfl
  | Genoa => exact .inr rfl
  | Turin => exact absurd rfl other

/-- Every check of a verified bundle was made of one and the same report and attestation. -/
theorem verify_bundle_sound (crates : Crates) (now : Int) (bundle : AttestationBundle)
    (policy : TrustPolicy) (a : Attestation)
    (verified : verifyBundle crates now bundle policy = .ok a) :
    ∃ raw parsed envelope cert statement key product,
      Sound crates now bundle policy a raw parsed envelope cert statement key product := by
  simp only [verifyBundle, bind_ok, mapError_ok, okOr_ok] at verified
  rcases verified with ⟨deployment, deployed, raw, decoded, report, parsed, der, base64,
    ⟨key, product⟩, found, _, trusted, _, certificate, made⟩
  have made := Except.ok.inj made
  subst made
  obtain ⟨sigstore, envelope, cert, statement, deployed⟩ := verifyDeployment_ok.mp deployed
  have decoded := decodeReportBody_ok.mp decoded
  have parsed := parseReport_ok parsed
  have trusted := verifyReport_ok.mp trusted
  refine ⟨raw, sigstore, envelope, cert, statement, key, product, ?_⟩
  rw [← trusted.measurement, parsed.measurement] at deployed
  exact
    { deployment := deployed
      decoded := decoded.2
      size := parsed.size
      version := by
        rw [← parsed.version]
        exact parsed.supported
      chain := ⟨der, base64, findProduct_some found⟩
      family := known_of_ne_turin trusted.family
      signed := by
        obtain ⟨sig, scalars, valid⟩ := trusted.signed
        rw [parsed.signedData] at valid
        exact ⟨_, _, sig, parsed.signatureR, parsed.signatureS, scalars, valid⟩
      debug := by
        rw [← parsed.debugEnabled]
        exact trusted.debug
      vmpl := by
        rw [← parsed.vmpl, trusted.vmpl]
        rfl
      tcb := tcb_bytes parsed trusted.tcb
      certificate := by
        intro required
        rw [if_pos required] at certificate
        rw [← parsed.tlsKeyFingerprint]
        exact checkEnclaveCertificate_ok.mp certificate
      hpkePublicKey := parsed.hpkePublicKey
      tlsKeyFingerprint := parsed.tlsKeyFingerprint
      measurement := parsed.measurement
      domain := rfl }

def pss : AlgorithmIdentifier := ⟨ID_RSASSA_PSS, some []⟩

def root : Certificate where
  tbsCertificate := ⟨pss, [], [], ⟨⟨ID_RSA_ENCRYPTION, none⟩, ⟨0, []⟩⟩, none, []⟩
  signatureAlgorithm := pss
  signature := ⟨0, []⟩

def endorsed : Certificate where
  tbsCertificate := ⟨pss, [], [], ⟨⟨ID_EC_PUBLIC_KEY, some []⟩, ⟨0, []⟩⟩,
    some [⟨GITHUB_WORKFLOW_REPOSITORY_OID, false, [0x72]⟩], []⟩
  signatureAlgorithm := pss
  signature := ⟨0, []⟩

def statement : Value := .object
  [("predicate", .object [("snp_measurement", .string (String.ofList (List.replicate 96 '0')))]),
    ("predicateType", .string PREDICATE_TYPE),
    ("subject", .array [.object [("digest", .object [("sha256", .string "00")])]])]

/-- Crates that find nothing wrong, with a report of zeros but for its version. -/
def lenient : Crates where
  hexDecode text := .ok (List.replicate (text.toList.length / 2) 0)
  hexEncode bytes := String.ofList (List.replicate (2 * bytes.length) '0')
  jsonFromSlice _ := .ok statement
  jsonToVec _ := .ok []
  fromDer _ := .ok endorsed
  fromPem _ := .ok endorsed
  loadPemChain _ := .ok [root, root]
  nameToDer _ := .ok []
  nameText _ := ""
  spkiToDer _ := .ok []
  tbsToDer _ := .ok []
  decodeOid _ := .ok ID_SECP384R1
  decodePssParams _ := .ok ⟨⟨ID_SHA384, none⟩, ⟨ID_MGF1, some ⟨ID_SHA384, none⟩⟩, 48⟩
  subjectAltName _ := .ok (some (false, [.dnsName "a.b"]))
  VerifyingKey := Unit
  Signature := Unit
  RsaPublicKey := Unit
  keyFromSec1Bytes _ := .ok ()
  signatureFromScalars _ _ := .ok ()
  verify _ _ _ := .ok ()
  rsaKeyFromDer _ := .ok ()
  verifyPss _ _ _ _ := .ok ()
  sha256 _ := Vector.replicate 32 0
  sha384 _ := []
  Bundle := Unit
  TrustedRoot := Unit
  bundleFromValue _ := .ok ()
  content _ := .dsseEnvelope ⟨[], [[]]⟩
  signingCertificate _ := some []
  trustedRootFromJson _ := .ok ()
  verifyBundle _ _ _ _ := .ok ()
  base64Decode _ := .ok []
  gunzip _ _ := .ok (2 :: List.replicate 1183 0)
  debugStr := id
  SIGSTORE_TRUSTED_ROOT := ""
  amdRoot _ := []

def zeroBundle : AttestationBundle where
  domain := "a.b"
  enclaveAttestationReport := ⟨"", ""⟩
  digest := "00"
  sigstoreBundle := .object [("verificationMaterial", .object [("tlogEntries",
    .array [.object [("integratedTime", .string "0")]])])]
  vcek := ""
  enclaveCert := ""

def routerPolicy : TrustPolicy := { (default : TrustPolicy) with signerRepository := "r" }

theorem deployed_lenient {now : Int} {bundle : AttestationBundle} (digest : bundle.digest = "00")
    (fresh : Fresh now bundle routerPolicy.maxAttestationAge) :
    Deployed lenient now bundle routerPolicy () ⟨[], [[]]⟩ endorsed statement
      (List.replicate 48 0) where
  pinned := by decide
  parses := rfl
  fresh := fresh
  content := rfl
  signedOnce := rfl
  verified := ⟨_, (), rfl, rfl, rfl⟩
  leaf := ⟨[], rfl, rfl⟩
  repository := by
    refine ⟨⟨GITHUB_WORKFLOW_REPOSITORY_OID, false, [0x72]⟩, rfl, ?_⟩
    have first : (ByteArray.mk #[0x72]).utf8DecodeChar? 0 = some 'r' := by decide
    have after : List.drop ('r').utf8Size [(0x72 : UInt8)] = [] := by decide
    unfold fromUtf8
    rw [utf8Chars, first]
    simp only [after]
    rw [utf8Chars]
    rfl
  payload := rfl
  subject := by
    rw [digest]
    rfl
  predicateType := rfl
  measurement := ⟨_, rfl, rfl⟩
  measurementSize := rfl

theorem fresh_zeroBundle : Fresh 0 zeroBundle routerPolicy.maxAttestationAge :=
  ⟨"0", 0, rfl, by decide, by decide, by decide, fun age given => by
    cases given
    decide⟩

theorem verifyBundle_zeroBundle :
    (verifyBundle lenient 0 zeroBundle routerPolicy).isOk = true := by
  have deployment : verifyDeployment lenient 0 zeroBundle routerPolicy =
      .ok ⟨List.replicate 48 0⟩ :=
    verifyDeployment_ok.mpr ⟨_, _, _, _, deployed_lenient rfl fresh_zeroBundle⟩
  unfold verifyBundle
  rw [deployment]
  decide +kernel

theorem verify_bundle_sound_zeroBundle :
    ∃ a raw parsed envelope cert statement key product,
      Sound lenient 0 zeroBundle routerPolicy a raw parsed envelope cert statement key product := by
  have accepted := verifyBundle_zeroBundle
  cases verified : verifyBundle lenient 0 zeroBundle routerPolicy with
  | error e =>
    rw [verified] at accepted
    cases accepted
  | ok a => exact ⟨a, verify_bundle_sound lenient 0 zeroBundle routerPolicy a verified⟩

/-- Verification fails with attestation errors only. -/
theorem verify_bundle_refuses (now : Int) (bundle : AttestationBundle) (policy : TrustPolicy) :
    Fails IsAttestation (verifyBundle crates now bundle policy) := by
  unfold verifyBundle decodeReportBody
  apply Fails.bind (verifyDeployment_refuses now bundle policy)
  intro deployment
  refine .bind ?_ fun raw => ?_
  · refine .bindMapError (fun _ => trivial) fun gz => ?_
    refine .bindMapError (fun _ => trivial) fun out => ?_
    exact .bindEnsure trivial (.ok _)
  apply Fails.bind (parseReport_refuses raw)
  intro report
  refine .bindMapError (fun _ => trivial) fun der => ?_
  refine .bindOkOr trivial fun loaded => ?_
  obtain ⟨key, product⟩ := loaded
  refine .bind (verifyReport_refuses report key _ policy product) fun _ => .bind ?_ fun _ => .ok _
  split
  · exact checkEnclaveCertificate_refuses _ _ _
  · exact .ok _

end PpqTee.Attest
