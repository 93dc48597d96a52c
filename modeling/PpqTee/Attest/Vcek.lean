import PpqTee.Attest.Crates

/-! The VCEK certificate chain, up to the AMD root compiled in for a product line. -/

namespace PpqTee.Attest

def ID_RSASSA_PSS : ObjectIdentifier := [1, 2, 840, 113549, 1, 1, 10]
def ID_MGF1 : ObjectIdentifier := [1, 2, 840, 113549, 1, 1, 8]
def ID_SHA384 : ObjectIdentifier := [2, 16, 840, 1, 101, 3, 4, 2, 2]
def ID_RSA_ENCRYPTION : ObjectIdentifier := [1, 2, 840, 113549, 1, 1, 1]
def ID_EC_PUBLIC_KEY : ObjectIdentifier := [1, 2, 840, 10045, 2, 1]
def ID_SECP384R1 : ObjectIdentifier := [1, 3, 132, 0, 34]

def PSS_SALT_LEN : UInt8 := 48

variable (crates : Crates)

def mgfHashText : Option ObjectIdentifier → String
  | some oid => s!"Some(ObjectIdentifier({oid.text}))"
  | none => "None"

def verifySignedBy (cert issuer : Certificate) : Result Unit := do
  let subject ← (crates.nameToDer issuer.tbsCertificate.subject).mapError fun e =>
    .attestation s!"cannot re-encode issuer subject: {e}"
  let namedIssuer ← (crates.nameToDer cert.tbsCertificate.issuer).mapError fun e =>
    .attestation s!"cannot re-encode issuer name: {e}"
  ensure (subject = namedIssuer) (.attestation
    s!"certificate issuer {crates.nameText cert.tbsCertificate.issuer} does not match {crates.nameText issuer.tbsCertificate.subject}")
  let algorithm := cert.signatureAlgorithm
  ensure (algorithm.oid = ID_RSASSA_PSS)
    (.attestation s!"unsupported certificate signature algorithm {algorithm.oid.text}")
  -- a signer and a verifier must not read different algorithms out of one certificate
  ensure (algorithm = cert.tbsCertificate.signature) (.attestation
    "certificate's outer signatureAlgorithm does not match the signed tbsCertificate.signature")
  let parameters ← okOr algorithm.parameters
    (.attestation "RSA-PSS signature declares no parameters")
  let params ← (crates.decodePssParams parameters).mapError fun e =>
    .attestation s!"malformed RSA-PSS parameters: {e}"
  let mgfHash := params.maskGen.parameters.map AlgorithmIdentifier.oid
  ensure (params.hash.oid = ID_SHA384 ∧ params.maskGen.oid = ID_MGF1 ∧ mgfHash = some ID_SHA384 ∧
      params.saltLen = PSS_SALT_LEN)
    (.attestation
      s!"unsupported RSA-PSS parameters: hash {params.hash.oid.text}, mgf {params.maskGen.oid.text}, mgf hash {mgfHashText mgfHash}, salt {params.saltLen}")
  let spki := issuer.tbsCertificate.subjectPublicKeyInfo
  ensure (spki.algorithm.oid = ID_RSA_ENCRYPTION)
    (.attestation s!"issuer key algorithm is {spki.algorithm.oid.text}, want rsaEncryption")
  let der ← (crates.spkiToDer spki).mapError fun e =>
    .attestation s!"cannot re-encode issuer SPKI: {e}"
  let key ← (crates.rsaKeyFromDer der).mapError fun e => .attestation s!"issuer key is not RSA: {e}"
  let tbs ← (crates.tbsToDer cert.tbsCertificate).mapError fun e =>
    .attestation s!"cannot re-encode tbsCertificate: {e}"
  let signature ← okOr cert.signature.asBytes (.attestation "signature is not aligned")
  (crates.verifyPss key PSS_SALT_LEN.toNat (crates.sha384 tbs) signature).mapError fun e =>
    .attestation s!"certificate signature invalid: {e}"

def p384KeyFromSpki (spki : SubjectPublicKeyInfo) : Result crates.VerifyingKey := do
  ensure (spki.algorithm.oid = ID_EC_PUBLIC_KEY)
    (.attestation s!"VCEK key algorithm is {spki.algorithm.oid.text}, want id-ecPublicKey")
  let parameters ← okOr spki.algorithm.parameters (.attestation "VCEK key names no curve")
  let curve ← (crates.decodeOid parameters).mapError fun e =>
    .attestation s!"VCEK curve is not an OID: {e}"
  ensure (curve = ID_SECP384R1)
    (.attestation s!"VCEK key is on curve {ObjectIdentifier.text curve}, want secp384r1")
  let bytes ← okOr spki.subjectPublicKey.asBytes (.attestation "VCEK public key is not aligned")
  (crates.keyFromSec1Bytes bytes).mapError fun e =>
    .attestation s!"VCEK public key is not P-384: {e}"

def verifyChain (vcekDer : Bytes) (product : AmdProduct) : Result crates.VerifyingKey := do
  let vcek ← (crates.fromDer vcekDer).mapError fun e =>
    .attestation s!"VCEK is not a DER certificate: {e}"
  let chain ← (crates.loadPemChain (crates.amdRoot product)).mapError fun e =>
    .attestation s!"embedded AMD chain is invalid: {e}"
  let ask ← okOr chain[0]? (.attestation "AMD chain is empty")
  let ark ← okOr chain[1]? (.attestation "AMD chain has no root")
  verifySignedBy crates ark ark
  verifySignedBy crates ask ark
  verifySignedBy crates vcek ask
  p384KeyFromSpki crates vcek.tbsCertificate.subjectPublicKeyInfo

/-- `issuer` signed `cert`, and is named in it. -/
structure SignedBy (cert issuer : Certificate) : Prop where
  named : ∃ name, crates.nameToDer issuer.tbsCertificate.subject = .ok name ∧
    crates.nameToDer cert.tbsCertificate.issuer = .ok name
  scheme : cert.signatureAlgorithm.oid = ID_RSASSA_PSS
  inner : cert.tbsCertificate.signature = cert.signatureAlgorithm
  hashes : ∃ der params, cert.signatureAlgorithm.parameters = some der ∧
    crates.decodePssParams der = .ok params ∧ params.hash.oid = ID_SHA384 ∧
    params.maskGen.oid = ID_MGF1 ∧ params.maskGen.parameters.map (·.oid) = some ID_SHA384 ∧
    params.saltLen = PSS_SALT_LEN
  rsa : issuer.tbsCertificate.subjectPublicKeyInfo.algorithm.oid = ID_RSA_ENCRYPTION
  signed : ∃ spki key tbs signature,
    crates.spkiToDer issuer.tbsCertificate.subjectPublicKeyInfo = .ok spki ∧
    crates.rsaKeyFromDer spki = .ok key ∧ crates.tbsToDer cert.tbsCertificate = .ok tbs ∧
    cert.signature.asBytes = some signature ∧
    crates.verifyPss key PSS_SALT_LEN.toNat (crates.sha384 tbs) signature = .ok ()

structure HoldsKey (vcek : Certificate) (key : crates.VerifyingKey) : Prop where
  algorithm : vcek.tbsCertificate.subjectPublicKeyInfo.algorithm.oid = ID_EC_PUBLIC_KEY
  curve : ∃ der, vcek.tbsCertificate.subjectPublicKeyInfo.algorithm.parameters = some der ∧
    crates.decodeOid der = .ok ID_SECP384R1
  point : ∃ bytes, vcek.tbsCertificate.subjectPublicKeyInfo.subjectPublicKey.asBytes = some bytes ∧
    crates.keyFromSec1Bytes bytes = .ok key

/-- `key` is that of a certificate that chains to the root of the product line. -/
def ChainsTo (vcekDer : Bytes) (product : AmdProduct) (key : crates.VerifyingKey) : Prop :=
  ∃ vcek ask ark rest, crates.fromDer vcekDer = .ok vcek ∧
    crates.loadPemChain (crates.amdRoot product) = .ok (ask :: ark :: rest) ∧
    SignedBy crates ark ark ∧ SignedBy crates ask ark ∧ SignedBy crates vcek ask ∧
    HoldsKey crates vcek key

variable {crates}

theorem verifySignedBy_ok {cert issuer : Certificate} {u : Unit} :
    verifySignedBy crates cert issuer = .ok u ↔ SignedBy crates cert issuer := by
  simp only [verifySignedBy, bind_ok, ensure_ok, okOr_ok, mapError_ok]
  constructor
  · intro accepted
    obtain ⟨name, subject, name', named, _, same, _, scheme, _, inner, der, parameters, params,
      decoded, _, ⟨hash, mgf, mgfHash, salt⟩, _, rsa, spki, encoded, key, rsaKey, tbs, tbsDer,
      signature, aligned, valid⟩ := accepted
    subst same
    exact
      { named := ⟨name, subject, named⟩
        scheme := scheme
        inner := inner.symm
        hashes := ⟨der, params, parameters, decoded, hash, mgf, mgfHash, salt⟩
        rsa := rsa
        signed := ⟨spki, key, tbs, signature, encoded, rsaKey, tbsDer, aligned, valid⟩ }
  · intro signed
    obtain ⟨name, subject, named⟩ := signed.named
    obtain ⟨der, params, parameters, decoded, hash, mgf, mgfHash, salt⟩ := signed.hashes
    obtain ⟨spki, key, tbs, signature, encoded, rsaKey, tbsDer, aligned, valid⟩ := signed.signed
    exact ⟨name, subject, name, named, (), rfl, (), signed.scheme, (), signed.inner.symm, der,
      parameters, params, decoded, (), ⟨hash, mgf, mgfHash, salt⟩, (), signed.rsa, spki, encoded,
      key, rsaKey, tbs, tbsDer, signature, aligned, valid⟩

theorem p384KeyFromSpki_ok {vcek : Certificate} {key : crates.VerifyingKey} :
    p384KeyFromSpki crates vcek.tbsCertificate.subjectPublicKeyInfo = .ok key ↔
      HoldsKey crates vcek key := by
  simp only [p384KeyFromSpki, bind_ok, ensure_ok, okOr_ok, mapError_ok]
  constructor
  · intro accepted
    obtain ⟨_, algorithm, der, parameters, curve, decoded, _, same, bytes, aligned,
      point⟩ := accepted
    subst same
    exact ⟨algorithm, ⟨der, parameters, decoded⟩, ⟨bytes, aligned, point⟩⟩
  · intro loaded
    obtain ⟨algorithm, ⟨der, parameters, decoded⟩, ⟨bytes, aligned, point⟩⟩ := loaded
    exact ⟨(), algorithm, der, parameters, _, decoded, (), rfl, bytes, aligned, point⟩

theorem verifyChain_ok {vcekDer : Bytes} {product : AmdProduct} {key : crates.VerifyingKey} :
    verifyChain crates vcekDer product = .ok key ↔ ChainsTo crates vcekDer product key := by
  simp only [verifyChain, bind_ok, okOr_ok, mapError_ok, verifySignedBy_ok, p384KeyFromSpki_ok]
  constructor
  · intro accepted
    obtain ⟨vcek, decoded, chain, loaded, ask, first, ark, second, _, root, _, middle, _, leaf,
      point⟩ := accepted
    match chain, first, second with
    | ask :: ark :: rest, rfl, rfl =>
      exact ⟨vcek, ask, ark, rest, decoded, loaded, root, middle, leaf, point⟩
  · intro chained
    obtain ⟨vcek, ask, ark, rest, decoded, loaded, root, middle, leaf, point⟩ := chained
    exact ⟨vcek, decoded, _, loaded, ask, rfl, ark, rfl, (), root, (), middle, (), leaf, point⟩

end PpqTee.Attest
