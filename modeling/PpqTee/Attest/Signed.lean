import PpqTee.Attest.Bundle

/-! What is decided on, and handed out, is what the report's signature covers: two reports that
agree on the signed bytes are told apart by their signatures only. -/

namespace PpqTee.Attest
open LittleEndian

theorem slice_agree {r₁ r₂ : Bytes} {n first last : Nat} (agree : r₁.take n = r₂.take n)
    (inside : last ≤ n) : slice r₁ first last = slice r₂ first last := by
  have prefixes := congrArg (List.take last) agree
  rw [List.take_take, List.take_take, Nat.min_eq_left inside] at prefixes
  rw [slice, slice, prefixes]

section

variable {n : Nat} {b₁ b₂ : Vector UInt8 n} {off : Nat}

theorem field_agree (agree : b₁.toList.take SIGNATURE_OFFSET = b₂.toList.take SIGNATURE_OFFSET)
    {len : Nat} (inside : off + len ≤ n) (signed : off + len ≤ SIGNATURE_OFFSET) :
    field b₁ off len inside = field b₂ off len inside := by
  apply Vector.toList_inj.mp
  rw [toList_field, toList_field]
  exact slice_agree agree signed

theorem u32At_agree (agree : b₁.toList.take SIGNATURE_OFFSET = b₂.toList.take SIGNATURE_OFFSET)
    (inside : off + 4 ≤ n) (signed : off + 4 ≤ SIGNATURE_OFFSET) :
    u32At b₁ off inside = u32At b₂ off inside := by
  rw [u32At, u32At, field_agree agree inside signed]

theorem u64At_agree (agree : b₁.toList.take SIGNATURE_OFFSET = b₂.toList.take SIGNATURE_OFFSET)
    (inside : off + 8 ≤ n) (signed : off + 8 ≤ SIGNATURE_OFFSET) :
    u64At b₁ off inside = u64At b₂ off inside := by
  rw [u64At, u64At, field_agree agree inside signed]

end

/-- The reports differ in their signatures only. -/
def SameSigned (report₁ report₂ : Report) : Prop :=
  report₂ = { report₁ with signatureR := report₂.signatureR, signatureS := report₂.signatureS }

/-- Parsing fails in the same way, or succeeds with the same signed fields. -/
theorem parseReport_agree {r₁ r₂ : Bytes} (size₁ : r₁.length = REPORT_SIZE)
    (size₂ : r₂.length = REPORT_SIZE) (agree : r₁.take SIGNATURE_OFFSET = r₂.take SIGNATURE_OFFSET) :
    (∃ e, parseReport r₁ = .error e ∧ parseReport r₂ = .error e) ∨
    ∃ report₁ report₂, parseReport r₁ = .ok report₁ ∧ parseReport r₂ = .ok report₂ ∧
      SameSigned report₁ report₂ := by
  unfold parseReport
  rw [dif_pos size₁, dif_pos size₂]
  generalize same₁ : (⟨r₁.toArray, by rw [List.size_toArray, size₁]⟩ : Vector UInt8 REPORT_SIZE) = b₁
  generalize same₂ : (⟨r₂.toArray, by rw [List.size_toArray, size₂]⟩ : Vector UInt8 REPORT_SIZE) = b₂
  have agree : b₁.toList.take SIGNATURE_OFFSET = b₂.toList.take SIGNATURE_OFFSET := by
    rw [← same₁, ← same₂]
    exact agree
  have version := u32At_agree agree (by decide : 0x00 + 4 ≤ REPORT_SIZE) (by decide)
  unfold parseSized
  simp only [version]
  by_cases old : u32At b₂ 0x00 (by decide) < 2
  · left
    simp only [ensure, not_true_eq_false, old, if_false]
    exact ⟨_, rfl, rfl⟩
  · right
    simp only [ensure, not_false_eq_true, old, if_true]
    refine ⟨_, _, rfl, rfl, ?_⟩
    simp only [SameSigned, Report.mk.injEq, true_and, and_true]
    refine ⟨?_, ?_, ?_, ?_, ?_, ?_, ?_, ?_⟩
    · exact (u64At_agree agree _ (by decide)).symm
    · exact (u32At_agree agree _ (by decide)).symm
    · exact (field_agree agree _ (by decide)).symm
    · exact (field_agree agree _ (by decide)).symm
    · exact (field_agree agree _ (by decide)).symm
    · exact (u64At_agree agree _ (by decide)).symm
    · exact (u64At_agree agree _ (by decide)).symm
    · exact (field_agree agree _ (by decide)).symm

theorem SameSigned.keys {report₁ report₂ : Report} (same : SameSigned report₁ report₂) :
    report₂.tlsKeyFingerprint = report₁.tlsKeyFingerprint ∧
      report₂.hpkePublicKey = report₁.hpkePublicKey ∧ report₂.measurement = report₁.measurement := by
  rw [same]
  exact ⟨rfl, rfl, rfl⟩

/-- A report is trusted where another with the same signed fields is, if its signature is valid. -/
theorem SameSigned.trusted {crates : Crates} {report₁ report₂ : Report}
    {vcek : crates.VerifyingKey} {expectedMeasurement : Bytes} {policy : TrustPolicy}
    {product : AmdProduct} (same : SameSigned report₁ report₂)
    (trusted : Trusted crates report₁ vcek expectedMeasurement policy product)
    (signed : ∃ sig, crates.signatureFromScalars report₂.signatureR report₂.signatureS = .ok sig ∧
      crates.verify vcek report₁.signedData.toList sig = .ok ()) :
    Trusted crates report₂ vcek expectedMeasurement policy product := by
  rw [same]
  exact
    { measurement := trusted.measurement
      debug := trusted.debug
      vmpl := trusted.vmpl
      family := trusted.family
      tcb := trusted.tcb
      signed := signed }

theorem verifyBundle_report {crates : Crates} {now : Int} {bundle : AttestationBundle}
    {policy : TrustPolicy} {a : Attestation} {raw : Bytes}
    (decoded : decodeReportBody crates bundle.enclaveAttestationReport.body = .ok raw)
    (verified : verifyBundle crates now bundle policy = .ok a) :
    ∃ report, parseReport raw = .ok report ∧ a.tlsKeyFingerprint = report.tlsKeyFingerprint ∧
      a.hpkePublicKey = report.hpkePublicKey ∧ a.measurement = report.measurement := by
  simp only [verifyBundle, bind_ok] at verified
  obtain ⟨_, _, raw', decoded', report, parsed, _, _, _, _, _, _, _, _, made⟩ := verified
  rw [decoded] at decoded'
  cases Except.ok.inj decoded'
  have made := Except.ok.inj made
  subst made
  exact ⟨report, parsed, rfl, rfl, rfl⟩

/-- Two raw reports that can be told apart by their signatures only. -/
structure SignedAlike (r₁ r₂ : Bytes) : Prop where
  parsed : (∃ e, parseReport r₁ = .error e ∧ parseReport r₂ = .error e) ∨
    ∃ report₁ report₂, parseReport r₁ = .ok report₁ ∧ parseReport r₂ = .ok report₂ ∧
      SameSigned report₁ report₂ ∧ report₁.signedData.toList = r₁.take SIGNATURE_OFFSET ∧
      report₂.signedData.toList = r₁.take SIGNATURE_OFFSET
  decided : ∀ (crates : Crates) (report₁ report₂ : Report) (vcek : crates.VerifyingKey)
    (expectedMeasurement : Bytes) (policy : TrustPolicy) (product : AmdProduct),
    parseReport r₁ = .ok report₁ → parseReport r₂ = .ok report₂ →
    verifyReport crates report₁ vcek expectedMeasurement policy product = .ok () →
    (verifyReport crates report₂ vcek expectedMeasurement policy product = .ok () ↔
      ∃ sig, crates.signatureFromScalars report₂.signatureR report₂.signatureS = .ok sig ∧
        crates.verify vcek (r₁.take SIGNATURE_OFFSET) sig = .ok ())
  attested : ∀ (crates : Crates) (now₁ now₂ : Int) (bundle₁ bundle₂ : AttestationBundle)
    (policy₁ policy₂ : TrustPolicy) (a₁ a₂ : Attestation),
    decodeReportBody crates bundle₁.enclaveAttestationReport.body = .ok r₁ →
    decodeReportBody crates bundle₂.enclaveAttestationReport.body = .ok r₂ →
    verifyBundle crates now₁ bundle₁ policy₁ = .ok a₁ →
    verifyBundle crates now₂ bundle₂ policy₂ = .ok a₂ →
    a₂.tlsKeyFingerprint = a₁.tlsKeyFingerprint ∧ a₂.hpkePublicKey = a₁.hpkePublicKey ∧
      a₂.measurement = a₁.measurement

theorem signedAlike {r₁ r₂ : Bytes} (size₁ : r₁.length = REPORT_SIZE)
    (size₂ : r₂.length = REPORT_SIZE) (agree : r₁.take SIGNATURE_OFFSET = r₂.take SIGNATURE_OFFSET) :
    SignedAlike r₁ r₂ := by
  have covered : ∀ {raw report}, parseReport raw = .ok report →
      report.signedData.toList = raw.take SIGNATURE_OFFSET := fun parsed => (parseReport_ok parsed).signedData
  have alike : ∀ {report₁ report₂}, parseReport r₁ = .ok report₁ → parseReport r₂ = .ok report₂ →
      SameSigned report₁ report₂ := by
    intro report₁ report₂ parsed₁ parsed₂
    rcases parseReport_agree size₁ size₂ agree with ⟨e, refused, _⟩ | ⟨_, _, same₁, same₂, alike⟩
    · rw [parsed₁] at refused
      cases refused
    · rw [parsed₁] at same₁
      rw [parsed₂] at same₂
      cases same₁
      cases same₂
      exact alike
  constructor
  · rcases parseReport_agree size₁ size₂ agree with refused | ⟨report₁, report₂, parsed₁, parsed₂, alike⟩
    · exact .inl refused
    · exact .inr ⟨report₁, report₂, parsed₁, parsed₂, alike, covered parsed₁,
        (covered parsed₂).trans agree.symm⟩
  · intro crates report₁ report₂ vcek expectedMeasurement policy product parsed₁ parsed₂ accepted
    rw [verifyReport_ok] at accepted ⊢
    rw [← covered parsed₁]
    constructor
    · intro trusted
      have signed := trusted.signed
      rwa [covered parsed₂, ← agree, ← covered parsed₁] at signed
    · exact (alike parsed₁ parsed₂).trusted accepted
  · intro crates now₁ now₂ bundle₁ bundle₂ policy₁ policy₂ a₁ a₂ decoded₁ decoded₂ verified₁ verified₂
    obtain ⟨report₁, parsed₁, tls₁, hpke₁, measured₁⟩ := verifyBundle_report decoded₁ verified₁
    obtain ⟨report₂, parsed₂, tls₂, hpke₂, measured₂⟩ := verifyBundle_report decoded₂ verified₂
    rw [tls₁, tls₂, hpke₁, hpke₂, measured₁, measured₂]
    exact (alike parsed₁ parsed₂).keys

/-- Trust decisions read signed bytes only, and every one of them: reports that agree on these
cannot be told apart but by their signatures, and a change to any of them changes what the
signature is verified over. -/
theorem signed_bytes_decide :
    (∀ r₁ r₂ : Bytes, r₁.length = REPORT_SIZE → r₂.length = REPORT_SIZE →
      r₁.take SIGNATURE_OFFSET = r₂.take SIGNATURE_OFFSET → SignedAlike r₁ r₂) ∧
    ∀ (r₁ r₂ : Bytes) (report₁ report₂ : Report) (i : Nat), parseReport r₁ = .ok report₁ →
      parseReport r₂ = .ok report₂ → i < SIGNATURE_OFFSET → r₁[i]? ≠ r₂[i]? →
      report₁.signedData.toList ≠ report₂.signedData.toList := by
  refine ⟨fun r₁ r₂ size₁ size₂ agree => signedAlike size₁ size₂ agree, ?_⟩
  intro r₁ r₂ report₁ report₂ i parsed₁ parsed₂ inside changed same
  rw [(parseReport_ok parsed₁).signedData, (parseReport_ok parsed₂).signedData] at same
  have byte := congrArg (fun bytes : Bytes => bytes[i]?) same
  simp only [slice, List.drop_zero, List.getElem?_take, inside, if_true] at byte
  exact changed byte

end PpqTee.Attest
