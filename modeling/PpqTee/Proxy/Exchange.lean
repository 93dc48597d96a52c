import PpqTee.Client.Enclave
import PpqTee.Proxy.Service

/-! From end to end: between an API client and an enclave the proxy is as good as not there, once an
operation of its request gets through. -/

namespace PpqTee.Proxy
open Client Ehbp

variable {crates : Crates}

/-- An outcome is the answer that has this status and this body. -/
def Delivers (crates : Crates) (streams : Bool) (status : StatusCode) (out : Bytes)
    (outcome : Result Reply) : Prop :=
  if status.isSuccess then
    if streams then ∃ plains : List Bytes,
      outcome = .ok (.stream (plains.map .ok)) ∧ plains.flatten = out
    else outcome = ((crates.jsonFromSlice out).mapError .json).map .completion
  else outcome = .error (enclaveError status out)

/-- Nothing that an enclave answered is tried again. -/
theorem Delivers.final {streams : Bool} {status : StatusCode} {out : Bytes}
    {outcome : Result Reply} (delivers : Delivers crates streams status out outcome) {e : Error}
    (failed : outcome = .error e) : warrantsReattest e = false := by
  unfold Delivers at delivers
  rw [failed] at delivers
  split at delivers
  · split at delivers
    · obtain ⟨_, same, _⟩ := delivers
      cases same
    · cases parsed : crates.jsonFromSlice out with
      | ok v =>
        rw [parsed] at delivers
        cases delivers
      | error cause =>
        rw [parsed] at delivers
        cases delivers
        rfl
  · cases delivers
    rfl

end PpqTee.Proxy
