import Mathlib.Data.Nat.Bitwise
import PpqTee.Attest.Crates
import PpqTee.Lib.LittleEndian

/-! The SEV-SNP attestation report: its fields, and where in the raw bytes they lie. -/

namespace PpqTee.Attest
open LittleEndian

def REPORT_SIZE : Nat := 0x4A0
def SIGNATURE_OFFSET : Nat := 0x2A0
def POLICY_DEBUG_BIT : UInt64 := (1 : UInt64) <<< 19

structure Report where
  version : UInt32
  policy : UInt64
  vmpl : UInt32
  reportData : Vector UInt8 64
  measurement : Vector UInt8 48
  chipId : Vector UInt8 64
  reportedTcb : UInt64
  committedTcb : UInt64
  /-- Exactly what the VCEK signature covers. -/
  signedData : Vector UInt8 SIGNATURE_OFFSET
  signatureR : Vector UInt8 48
  signatureS : Vector UInt8 48
  deriving DecidableEq, Repr

def u32At {n : Nat} (b : Vector UInt8 n) (off : Nat) (inside : off + 4 ≤ n) : UInt32 :=
  UInt32.ofNat (ofBytes (field b off 4 inside).toList)

def u64At {n : Nat} (b : Vector UInt8 n) (off : Nat) (inside : off + 8 ≤ n) : UInt64 :=
  UInt64.ofNat (ofBytes (field b off 8 inside).toList)

/-- The low 48 of 72 little-endian bytes, big-endian. -/
def scalarAt {n : Nat} (b : Vector UInt8 n) (off : Nat) (inside : off + 48 ≤ n) :
    Vector UInt8 48 :=
  (field b off 48 inside).reverse

/-- `report::parse`, behind the check of the size. -/
def parseSized (raw : Vector UInt8 REPORT_SIZE) : Result Report := do
  let version := u32At raw 0x00 (by decide)
  ensure (¬ version < 2)
    (.attestation s!"unsupported report version {version}, want 2 or higher")
  .ok
    { version
      policy := u64At raw 0x08 (by decide)
      vmpl := u32At raw 0x30 (by decide)
      reportData := field raw 0x50 64 (by decide)
      measurement := field raw 0x90 48 (by decide)
      chipId := field raw 0x1A0 64 (by decide)
      reportedTcb := u64At raw 0x180 (by decide)
      committedTcb := u64At raw 0x1E0 (by decide)
      signedData := field raw 0 SIGNATURE_OFFSET (by decide)
      signatureR := scalarAt raw SIGNATURE_OFFSET (by decide)
      signatureS := scalarAt raw (SIGNATURE_OFFSET + 72) (by decide) }

def parseReport (raw : Bytes) : Result Report :=
  if size : raw.length = REPORT_SIZE then
    parseSized ⟨raw.toArray, by rw [List.size_toArray, size]⟩
  else .error (.attestation s!"report is {raw.length} bytes, want {REPORT_SIZE}")

namespace Report

def debugEnabled (report : Report) : Bool := report.policy &&& POLICY_DEBUG_BIT ≠ 0

def tlsKeyFingerprint (report : Report) : Vector UInt8 32 :=
  field report.reportData 0 32 (by decide)

def hpkePublicKey (report : Report) : Vector UInt8 32 := field report.reportData 32 32 (by decide)

end Report

theorem parseReport_refuses (raw : Bytes) : Fails IsAttestation (parseReport raw) := by
  unfold parseReport
  by_cases size : raw.length = REPORT_SIZE
  · rw [dif_pos size]
    exact .bindEnsure trivial (.ok _)
  · rw [dif_neg size]
    exact .error trivial

theorem toNat_u32At {n : Nat} (b : Vector UInt8 n) (off : Nat) (inside : off + 4 ≤ n) :
    (u32At b off inside).toNat = ofBytes (slice b.toList off (off + 4)) := by
  have small := ofBytes_lt (slice b.toList off (off + 4))
  rw [length_slice _ (by simpa using inside), Nat.add_sub_cancel_left] at small
  unfold u32At
  rw [toList_field]
  exact UInt32.toNat_ofNat_of_lt' small

theorem toNat_u64At {n : Nat} (b : Vector UInt8 n) (off : Nat) (inside : off + 8 ≤ n) :
    (u64At b off inside).toNat = ofBytes (slice b.toList off (off + 8)) := by
  have small := ofBytes_lt (slice b.toList off (off + 8))
  rw [length_slice _ (by simpa using inside), Nat.add_sub_cancel_left] at small
  unfold u64At
  rw [toList_field]
  exact UInt64.toNat_ofNat_of_lt' small

/-- What the fields of a report are in the raw bytes it was parsed from. -/
structure Parsed (raw : Bytes) (report : Report) : Prop where
  size : raw.length = REPORT_SIZE
  version : report.version.toNat = ofBytes (slice raw 0x00 0x04)
  supported : 2 ≤ report.version.toNat
  policy : report.policy.toNat = ofBytes (slice raw 0x08 0x10)
  vmpl : report.vmpl.toNat = ofBytes (slice raw 0x30 0x34)
  reportData : report.reportData.toList = slice raw 0x50 0x90
  measurement : report.measurement.toList = slice raw 0x90 0xC0
  chipId : report.chipId.toList = slice raw 0x1A0 0x1E0
  reportedTcb : report.reportedTcb.toNat = ofBytes (slice raw 0x180 0x188)
  committedTcb : report.committedTcb.toNat = ofBytes (slice raw 0x1E0 0x1E8)
  signedData : report.signedData.toList = slice raw 0 SIGNATURE_OFFSET
  signatureR : report.signatureR.toList = (slice raw 0x2A0 0x2D0).reverse
  signatureS : report.signatureS.toList = (slice raw 0x2E8 0x318).reverse

theorem parseReport_ok {raw : Bytes} {report : Report} (accepted : parseReport raw = .ok report) :
    Parsed raw report := by
  unfold parseReport at accepted
  by_cases size : raw.length = REPORT_SIZE
  · rw [dif_pos size] at accepted
    obtain ⟨_, supported, made⟩ := bind_ok.mp accepted
    have supported := ensure_ok.mp supported
    cases made
    have bytes : (⟨raw.toArray, by rw [List.size_toArray, size]⟩ :
      Vector UInt8 REPORT_SIZE).toList = raw := rfl
    constructor
    case size => exact size
    case supported =>
      exact Nat.not_lt.mp (UInt32.lt_iff_toNat_lt.not.mp supported)
    case signatureR | signatureS =>
      simp only [scalarAt, Vector.toList_reverse, toList_field, bytes]
      rfl
    all_goals simp only [toNat_u32At, toNat_u64At, toList_field, bytes, Nat.zero_add]
  · rw [dif_neg size] at accepted
    cases accepted

namespace Parsed

variable {raw : Bytes} {report : Report}

theorem tlsKeyFingerprint (parsed : Parsed raw report) :
    report.tlsKeyFingerprint.toList = slice raw 0x50 0x70 := by
  unfold Report.tlsKeyFingerprint
  rw [toList_field, parsed.reportData, slice_slice _ (by decide)]

theorem hpkePublicKey (parsed : Parsed raw report) :
    report.hpkePublicKey.toList = slice raw 0x70 0x90 := by
  unfold Report.hpkePublicKey
  rw [toList_field, parsed.reportData, slice_slice _ (by decide)]

/-- The debug bit is bit 19 of the guest policy. -/
theorem debugEnabled (parsed : Parsed raw report) :
    report.debugEnabled = (ofBytes (slice raw 0x08 0x10)).testBit 19 := by
  rw [← parsed.policy]
  have masked : (report.policy &&& POLICY_DEBUG_BIT).toNat =
      (report.policy.toNat.testBit 19).toNat * 2 ^ 19 := by
    rw [UInt64.toNat_and]
    exact Nat.and_two_pow _ 19
  unfold Report.debugEnabled
  simp only [ne_eq, ← UInt64.toNat_inj, masked]
  cases report.policy.toNat.testBit 19 <;> decide

end Parsed

end PpqTee.Attest
