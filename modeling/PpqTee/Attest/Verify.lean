import PpqTee.Attest.Report
import PpqTee.Attest.Vcek

/-! The hardware half of the decision: a genuine report of the attested build, from a guest
that may be trusted. -/

namespace PpqTee.Attest
open LittleEndian

/-- Bootloader, TEE, SNP firmware and microcode, on Milan and Genoa only. -/
def TCB_COMPONENT_SHIFTS_FAMILY_19H : List UInt32 := [0, 8, 48, 56]

/-- The layout of a TCB version depends on the product family, and is known for one only. -/
def tcbShifts : AmdProduct → Result (List UInt32)
  | .Milan | .Genoa => .ok TCB_COMPONENT_SHIFTS_FAMILY_19H
  | .Turin => .error (.attestation
      "TCB rollback checking for AMD family 1Ah (Turin) is not implemented; refusing rather than guessing at its TCB_VERSION layout")

def tcbComponent (tcb : UInt64) (shift : UInt32) : UInt8 := (tcb >>> shift.toUInt64).toUInt8

def rolledBackComponent (reported committed : UInt64) (shifts : List UInt32) : Option UInt32 :=
  shifts.find? fun shift => tcbComponent reported shift < tcbComponent committed shift

variable (crates : Crates)

def verifyReport (report : Report) (vcek : crates.VerifyingKey) (expectedMeasurement : Bytes)
    (policy : TrustPolicy) (product : AmdProduct) : Result Unit := do
  let hex := crates.hexEncode
  ensure (report.measurement.toList = expectedMeasurement) (.attestation
    s!"enclave measurement {hex report.measurement.toList} does not match attested deployment {hex expectedMeasurement}")
  ensure (¬ (policy.requireDebugDisabled ∧ report.debugEnabled))
    (.attestation "guest policy allows debug; enclave memory could be inspected")
  -- a report from a higher VMPL says nothing about what runs at VMPL 0
  ensure (report.vmpl = 0) (.attestation s!"report is from VMPL {report.vmpl}, want 0")
  let shifts ← tcbShifts product
  match rolledBackComponent report.reportedTcb report.committedTcb shifts with
  | some rolledBack => .error (.attestation
      s!"reported TCB {hexPadded 16 report.reportedTcb.toNat} is below committed TCB {hexPadded 16 report.committedTcb.toNat} in the component at byte {rolledBack / 8}")
  | none => do
    let sig ← (crates.signatureFromScalars report.signatureR report.signatureS).mapError fun e =>
      .attestation s!"malformed report signature: {e}"
    (crates.verify vcek report.signedData.toList sig).mapError fun e =>
      .attestation s!"report signature invalid: {e}"

/-- What `verify_report` asks of a report. -/
structure Trusted (report : Report) (vcek : crates.VerifyingKey) (expectedMeasurement : Bytes)
    (policy : TrustPolicy) (product : AmdProduct) : Prop where
  measurement : report.measurement.toList = expectedMeasurement
  debug : policy.requireDebugDisabled = true → report.debugEnabled = false
  vmpl : report.vmpl = 0
  family : product ≠ .Turin
  tcb : ∀ shift ∈ TCB_COMPONENT_SHIFTS_FAMILY_19H,
    tcbComponent report.committedTcb shift ≤ tcbComponent report.reportedTcb shift
  signed : ∃ sig, crates.signatureFromScalars report.signatureR report.signatureS = .ok sig ∧
    crates.verify vcek report.signedData.toList sig = .ok ()

variable {crates}

theorem rolledBackComponent_none {reported committed : UInt64} {shifts : List UInt32} :
    rolledBackComponent reported committed shifts = none ↔
      ∀ shift ∈ shifts, tcbComponent committed shift ≤ tcbComponent reported shift := by
  simp only [rolledBackComponent, List.find?_eq_none, decide_eq_true_eq, UInt8.not_lt]

theorem tcbShifts_ok {product : AmdProduct} {shifts : List UInt32} :
    tcbShifts product = .ok shifts ↔
      shifts = TCB_COMPONENT_SHIFTS_FAMILY_19H ∧ product ≠ .Turin := by
  cases product <;> simp [tcbShifts, eq_comm]

theorem verifyReport_ok {report : Report} {vcek : crates.VerifyingKey}
    {expectedMeasurement : Bytes} {policy : TrustPolicy} {product : AmdProduct} {u : Unit} :
    verifyReport crates report vcek expectedMeasurement policy product = .ok u ↔
      Trusted crates report vcek expectedMeasurement policy product := by
  simp only [verifyReport, bind_ok, ensure_ok]
  constructor
  · intro accepted
    obtain ⟨_, measurement, _, debug, _, vmpl, shifts, known, accepted⟩ := accepted
    have table := tcbShifts_ok.mp known
    rw [table.1] at accepted
    split at accepted
    · cases accepted
    · rename_i kept
      simp only [bind_ok, mapError_ok] at accepted
      exact
        { measurement := measurement
          debug := fun required => Bool.eq_false_iff.mpr fun enabled => debug ⟨required, enabled⟩
          vmpl := vmpl
          family := table.2
          tcb := rolledBackComponent_none.mp kept
          signed := accepted }
  · intro trusted
    refine ⟨(), trusted.measurement, (), ?_, (), trusted.vmpl, _,
      tcbShifts_ok.mpr ⟨rfl, trusted.family⟩, ?_⟩
    · intro debuggable
      obtain ⟨required, enabled⟩ := debuggable
      rw [trusted.debug required] at enabled
      cases enabled
    · rw [rolledBackComponent_none.mpr trusted.tcb]
      simp only [bind_ok, mapError_ok]
      exact trusted.signed

theorem verifyReport_refuses (report : Report) (vcek : crates.VerifyingKey)
    (expectedMeasurement : Bytes) (policy : TrustPolicy) (product : AmdProduct) :
    Fails IsAttestation (verifyReport crates report vcek expectedMeasurement policy product) := by
  unfold verifyReport
  refine .bindEnsure trivial (.bindEnsure trivial (.bindEnsure trivial ?_))
  refine .bind ?_ fun shifts => ?_
  · cases product
    case Turin => exact .error trivial
    all_goals exact .ok _
  · split
    · exact .error trivial
    · exact .bindMapError (fun _ => trivial) fun sig => .mapError fun _ => trivial

theorem toNat_tcbComponent {raw : Bytes} {off : Nat} {tcb : UInt64}
    (read : tcb.toNat = ofBytes (slice raw off (off + 8))) {i : Nat} (inside : i < 8) :
    (tcbComponent tcb (UInt32.ofNat (8 * i))).toNat = (raw.getD (off + i) 0).toNat := by
  have shift : (UInt32.ofNat (8 * i)).toUInt64.toNat = 8 * i := by
    rw [UInt32.toNat_toUInt64]
    exact UInt32.toNat_ofNat_of_lt' (by unfold UInt32.size; omega)
  rw [tcbComponent, UInt64.toNat_toUInt8, UInt64.toNat_shiftRight, shift, read,
    Nat.mod_eq_of_lt (by omega : 8 * i < 64), Nat.shiftRight_eq_div_pow, Nat.pow_mul,
    ← getD_slice raw (by omega : off + i < off + 8)]
  exact ofBytes_digit _ i

/-- The four components of the reported TCB are at least those of the committed one. -/
theorem tcb_bytes {raw : Bytes} {report : Report} (parsed : Parsed raw report)
    (kept : ∀ shift ∈ TCB_COMPONENT_SHIFTS_FAMILY_19H,
      tcbComponent report.committedTcb shift ≤ tcbComponent report.reportedTcb shift) :
    ∀ i ∈ [0, 1, 6, 7], raw.getD (0x1E0 + i) 0 ≤ raw.getD (0x180 + i) 0 := by
  intro i member
  have inside : i < 8 := by
    simp only [List.mem_cons, List.not_mem_nil, or_false] at member
    omega
  have shift : UInt32.ofNat (8 * i) ∈ TCB_COMPONENT_SHIFTS_FAMILY_19H := by
    simp only [List.mem_cons, List.not_mem_nil, or_false] at member
    rcases member with same | same | same | same <;> subst same <;> decide
  have component := UInt8.le_iff_toNat_le.mp (kept _ shift)
  rw [toNat_tcbComponent parsed.reportedTcb inside,
    toNat_tcbComponent parsed.committedTcb inside] at component
  exact UInt8.le_iff_toNat_le.mpr component

end PpqTee.Attest
