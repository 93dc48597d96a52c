import PpqTee.Attest.Types
import PpqTee.Text

/-! Certificates, as far as verification reads them, and the crates it rests on. -/

namespace PpqTee.Attest

abbrev ObjectIdentifier := List Nat

def ObjectIdentifier.text (oid : ObjectIdentifier) : String := ".".intercalate (oid.map toString)

/-- The parameters are a DER value. -/
structure AlgorithmIdentifier where
  oid : ObjectIdentifier
  parameters : Option Bytes
  deriving DecidableEq, Repr

structure BitString where
  unusedBits : Nat
  rawBytes : Bytes
  deriving DecidableEq, Repr

def BitString.asBytes (bits : BitString) : Option Bytes :=
  if bits.unusedBits = 0 then some bits.rawBytes else none

structure SubjectPublicKeyInfo where
  algorithm : AlgorithmIdentifier
  subjectPublicKey : BitString
  deriving DecidableEq, Repr

structure Extension where
  extnId : ObjectIdentifier
  critical : Bool
  extnValue : Bytes
  deriving DecidableEq, Repr

abbrev Name := List (List (ObjectIdentifier × Bytes))

/-- `rest` is what no check looks at: version, serial number, validity and unique ids. -/
structure TbsCertificate where
  signature : AlgorithmIdentifier
  issuer : Name
  subject : Name
  subjectPublicKeyInfo : SubjectPublicKeyInfo
  extensions : Option (List Extension)
  rest : Bytes
  deriving DecidableEq, Repr

structure Certificate where
  tbsCertificate : TbsCertificate
  signatureAlgorithm : AlgorithmIdentifier
  signature : BitString
  deriving DecidableEq, Repr

inductive GeneralName where
  | dnsName (name : String)
  | other (value : Bytes)
  deriving DecidableEq, Repr

structure MaskGen where
  oid : ObjectIdentifier
  parameters : Option AlgorithmIdentifier
  deriving DecidableEq, Repr

structure RsaPssParams where
  hash : AlgorithmIdentifier
  maskGen : MaskGen
  saltLen : UInt8
  deriving DecidableEq, Repr

structure X509 where
  fromDer : Bytes → Except String Certificate
  fromPem : Bytes → Except String Certificate
  loadPemChain : Bytes → Except String (List Certificate)
  nameToDer : Name → Except String Bytes
  nameText : Name → String
  spkiToDer : SubjectPublicKeyInfo → Except String Bytes
  tbsToDer : TbsCertificate → Except String Bytes
  decodeOid : Bytes → Except String ObjectIdentifier
  decodePssParams : Bytes → Except String RsaPssParams
  /-- `get::<SubjectAltName>`, with the criticality. -/
  subjectAltName : TbsCertificate → Except String (Option (Bool × List GeneralName))

/-- RSASSA-PSS with SHA-384, ECDSA on P-384, and SHA-2. -/
structure Signatures where
  VerifyingKey : Type
  Signature : Type
  RsaPublicKey : Type
  keyFromSec1Bytes : Bytes → Except String VerifyingKey
  signatureFromScalars : (r s : Vector UInt8 48) → Except String Signature
  verify : VerifyingKey → (message : Bytes) → Signature → Except String Unit
  rsaKeyFromDer : Bytes → Except String RsaPublicKey
  verifyPss : RsaPublicKey → (saltLen : Nat) → (digest signature : Bytes) → Except String Unit
  sha256 : Bytes → Vector UInt8 32
  sha384 : Bytes → Bytes

structure DsseEnvelope where
  payload : Bytes
  signatures : List Bytes
  deriving DecidableEq, Repr

inductive SignatureContent where
  | dsseEnvelope (envelope : DsseEnvelope)
  | messageSignature
  deriving DecidableEq, Repr

structure Sigstore where
  Bundle : Type
  TrustedRoot : Type
  bundleFromValue : Value → Except String Bundle
  content : Bundle → SignatureContent
  signingCertificate : Bundle → Option Bytes
  trustedRootFromJson : String → Except String TrustedRoot
  /-- The verifier, under `VerificationPolicy::with_issuer`. -/
  verifyBundle : TrustedRoot → (digest : Bytes) → Bundle → (issuer : String) → Except String Unit

/-- The crates, the files compiled in, and what the standard library decides by tables. -/
structure Crates extends Hex, SerdeJson, X509, Signatures, Sigstore where
  base64Decode : String → Except String Bytes
  /-- The first `limit` bytes of what a gzip stream decompresses to. -/
  gunzip : (limit : Nat) → Bytes → Except String Bytes
  debugStr : String → String
  SIGSTORE_TRUSTED_ROOT : String
  amdRoot : AmdProduct → Bytes

end PpqTee.Attest
