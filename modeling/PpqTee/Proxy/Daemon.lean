import PpqTee.Proxy.Lineage

/-! The daemon: its key out of a file or the environment, its first client from an attestation,
and then the requests. -/

namespace PpqTee.Proxy
open Client

/-- The arguments; an option that is not given has its default already. -/
structure Args where
  listen : String
  apiKeyFile : Option String
  baseUrl : String
  reattestAfter : Nat

/-- No trust policy is given to the builder, so it is the default one. -/
def Args.attester (attestCrates : Attest.Crates)
    (bundleFromStr : String → Except JsonError Attest.AttestationBundle) (args : Args)
    (apiKey : String) : Builder :=
  ⟨attestCrates, bundleFromStr, ⟨some apiKey, some args.baseUrl, none⟩⟩

end PpqTee.Proxy
