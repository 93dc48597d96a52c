import PpqTee.Error
import PpqTee.Json

/-! The attestation bundle, what the verifier requires of it, and what a successful
verification establishes. -/

namespace PpqTee.Attest

structure EnclaveReport where
  format : String
  /-- Base64 of a gzip stream containing the raw report. -/
  body : String
  deriving Repr

structure AttestationBundle where
  domain : String
  enclaveAttestationReport : EnclaveReport
  digest : String
  sigstoreBundle : Value
  vcek : String
  enclaveCert : String
  deriving Repr

structure TrustPolicy where
  signerRepository : String
  oidcIssuer : String
  requireDebugDisabled : Bool
  maxAttestationAge : Option Nat
  checkEnclaveCertificate : Bool
  deriving DecidableEq, Repr

def DEFAULT_MAX_ATTESTATION_AGE : Nat := Duration.fromSecs (90 * 24 * 60 * 60)

instance : Inhabited TrustPolicy where
  default :=
    { signerRepository := "tinfoilsh/confidential-model-router"
      oidcIssuer := "https://token.actions.githubusercontent.com"
      requireDebugDisabled := true
      maxAttestationAge := some DEFAULT_MAX_ATTESTATION_AGE
      checkEnclaveCertificate := true }

inductive AmdProduct where
  | Milan | Genoa | Turin
  deriving DecidableEq, Repr

structure Attestation where
  hpkePublicKey : Vector UInt8 32
  tlsKeyFingerprint : Vector UInt8 32
  measurement : Vector UInt8 48
  /-- Copied out of the bundle, and not attested under any policy. -/
  domain : String
  deriving DecidableEq, Repr

end PpqTee.Attest
