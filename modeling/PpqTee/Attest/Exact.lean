import PpqTee.Attest.Bundle

/-! What a verified bundle establishes is also enough for it to be accepted, and from one that is
accepted it can be read off under which other policies, and until when, it is. -/

namespace PpqTee.Attest
open LittleEndian

variable {crates : Crates}

/-- What the steps of `verify_bundle` found. -/
structure Vouched (crates : Crates) (now : Int) (bundle : AttestationBundle) (policy : TrustPolicy)
    (raw : Bytes) (report : Report) (der : Bytes) (key : crates.VerifyingKey)
    (product : AmdProduct) : Prop where
  deployed : ∃ parsed envelope cert statement,
    Deployed crates now bundle policy parsed envelope cert statement report.measurement.toList
  decoded : decodeReportBody crates bundle.enclaveAttestationReport.body = .ok raw
  parsed : parseReport raw = .ok report
  vcek : crates.base64Decode bundle.vcek = .ok der
  found : findProduct crates der = some (key, product)
  trusted : Trusted crates report key report.measurement.toList policy product
  certificate : policy.checkEnclaveCertificate = true →
    ∃ cert, Covers crates bundle.enclaveCert bundle.domain report.tlsKeyFingerprint.toList cert

/-- What is handed out of a report. -/
def attestationOf (bundle : AttestationBundle) (report : Report) : Attestation where
  hpkePublicKey := report.hpkePublicKey
  tlsKeyFingerprint := report.tlsKeyFingerprint
  measurement := report.measurement
  domain := bundle.domain

theorem verifyBundle_ok {now : Int} {bundle : AttestationBundle} {policy : TrustPolicy}
    {a : Attestation} :
    verifyBundle crates now bundle policy = .ok a ↔ ∃ raw report der key product,
      Vouched crates now bundle policy raw report der key product ∧
        a = attestationOf bundle report := by
  simp only [verifyBundle, bind_ok, mapError_ok, okOr_ok]
  apply Iff.intro
  · intro verified
    obtain ⟨deployment, deployed, raw, decoded, report, parsed, der, vcek, ⟨key, product⟩, found, _,
      trusted, _, certificate, made⟩ := verified
    have trusted := verifyReport_ok.mp trusted
    have deployed := verifyDeployment_ok.mp deployed
    rw [← trusted.measurement] at deployed trusted
    have covers : policy.checkEnclaveCertificate = true → ∃ cert,
        Covers crates bundle.enclaveCert bundle.domain report.tlsKeyFingerprint.toList cert := by
      intro required
      rw [if_pos required] at certificate
      exact checkEnclaveCertificate_ok.mp certificate
    exact ⟨raw, report, der, key, product,
      ⟨deployed, decoded, parsed, vcek, found, trusted, covers⟩, (Except.ok.inj made).symm⟩
  · intro vouched
    obtain ⟨raw, report, der, key, product, vouched, same⟩ := vouched
    have deployed : verifyDeployment crates now bundle policy = .ok ⟨report.measurement.toList⟩ :=
      verifyDeployment_ok.mpr vouched.deployed
    have certificate : (if policy.checkEnclaveCertificate then
        checkEnclaveCertificate crates bundle.enclaveCert bundle.domain report.tlsKeyFingerprint
        else .ok ()) = .ok () := by
      by_cases required : policy.checkEnclaveCertificate = true
      · rw [if_pos required]
        exact checkEnclaveCertificate_ok.mpr (vouched.certificate required)
      · rw [if_neg required]
    exact ⟨_, deployed, raw, vouched.decoded, report, vouched.parsed, der, vouched.vcek,
      (key, product), vouched.found, (), verifyReport_ok.mpr vouched.trusted, (), certificate,
      by rw [same]; rfl⟩

/-! The checks from the bytes of the report. -/

theorem parseReport_of {raw : Bytes} (size : raw.length = REPORT_SIZE)
    (supported : 2 ≤ ofBytes (slice raw 0x00 0x04)) : ∃ report, parseReport raw = .ok report := by
  have bytes : (⟨raw.toArray, by rw [List.size_toArray, size]⟩ :
    Vector UInt8 REPORT_SIZE).toList = raw := rfl
  unfold parseReport
  rw [dif_pos size]
  unfold parseSized
  refine ⟨_, bind_ok.mpr ⟨(), ensure_ok.mpr ?_, rfl⟩⟩
  rw [UInt32.lt_iff_toNat_lt, toNat_u32At, bytes]
  exact Nat.not_lt.mpr supported

/-- The four bytes of a TCB version that are looked at are its four components. -/
theorem tcb_components {raw : Bytes} {report : Report} (parsed : Parsed raw report)
    (kept : ∀ i ∈ [0, 1, 6, 7], raw.getD (0x1E0 + i) 0 ≤ raw.getD (0x180 + i) 0) :
    ∀ shift ∈ TCB_COMPONENT_SHIFTS_FAMILY_19H,
      tcbComponent report.committedTcb shift ≤ tcbComponent report.reportedTcb shift := by
  have component : ∀ i ∈ [0, 1, 6, 7], tcbComponent report.committedTcb (UInt32.ofNat (8 * i)) ≤
      tcbComponent report.reportedTcb (UInt32.ofNat (8 * i)) := by
    intro i member
    have inside : i < 8 := by
      simp only [List.mem_cons, List.not_mem_nil, or_false] at member
      omega
    apply UInt8.le_iff_toNat_le.mpr
    rw [toNat_tcbComponent parsed.reportedTcb inside, toNat_tcbComponent parsed.committedTcb inside]
    exact UInt8.le_iff_toNat_le.mp (kept i member)
  intro shift member
  have byte : ∃ i ∈ [0, 1, 6, 7], shift = UInt32.ofNat (8 * i) := by
    unfold TCB_COMPONENT_SHIFTS_FAMILY_19H at member
    simp only [List.mem_cons, List.not_mem_nil, or_false] at member
    rcases member with same | same | same | same
    · exact ⟨0, by decide, same⟩
    · exact ⟨1, by decide, same⟩
    · exact ⟨6, by decide, same⟩
    · exact ⟨7, by decide, same⟩
  obtain ⟨i, one, same⟩ := byte
  rw [same]
  exact component i one

theorem chainsTo_iff {der : Bytes} {product : AmdProduct} {key : crates.VerifyingKey} :
    ChainsTo crates der product key ↔ (verifyChain crates der product).toOption = some key := by
  rw [toOption_ok, verifyChain_ok]

/-- The product line is the first whose root the certificate chains to. -/
theorem findProduct_known {der : Bytes} {key : crates.VerifyingKey} {product : AmdProduct}
    (family : product = .Milan ∨ product = .Genoa) :
    findProduct crates der = some (key, product) ↔ ChainsTo crates der product key ∧
      (product = .Genoa → ∀ key', ¬ ChainsTo crates der .Milan key') := by
  unfold findProduct
  simp only [List.findSome?_cons, List.findSome?_nil, chainsTo_iff]
  rcases family with same | same
  all_goals
    rw [same]
    cases (verifyChain crates der .Milan).toOption with
    | some found => simp
    | none =>
      cases (verifyChain crates der .Genoa).toOption <;>
        cases (verifyChain crates der .Turin).toOption <;> simp

/-- The findings of the steps, in terms of the raw bytes. -/
theorem sound_of_vouched {now : Int} {bundle : AttestationBundle} {policy : TrustPolicy}
    {raw : Bytes} {report : Report} {der : Bytes} {key : crates.VerifyingKey} {product : AmdProduct}
    (vouched : Vouched crates now bundle policy raw report der key product) :
    ∃ parsed envelope cert statement, Sound crates now bundle policy (attestationOf bundle report)
      raw parsed envelope cert statement key product := by
  obtain ⟨sigstore, envelope, cert, statement, deployed⟩ := vouched.deployed
  have parsed := parseReport_ok vouched.parsed
  have trusted := vouched.trusted
  have version := parsed.supported
  rw [parsed.version] at version
  have vmpl := parsed.vmpl
  rw [trusted.vmpl] at vmpl
  rw [parsed.measurement] at deployed
  obtain ⟨sig, scalars, valid⟩ := trusted.signed
  rw [parsed.signedData] at valid
  refine ⟨sigstore, envelope, cert, statement, ?_⟩
  exact
    { deployment := deployed
      decoded := (decodeReportBody_ok.mp vouched.decoded).2
      size := parsed.size
      version := version
      chain := ⟨der, vouched.vcek, findProduct_some vouched.found⟩
      family := known_of_ne_turin trusted.family
      signed := ⟨_, _, sig, parsed.signatureR, parsed.signatureS, scalars, valid⟩
      debug := fun required => parsed.debugEnabled ▸ trusted.debug required
      vmpl := vmpl.symm
      tcb := tcb_bytes parsed trusted.tcb
      certificate := fun required => parsed.tlsKeyFingerprint ▸ vouched.certificate required
      hpkePublicKey := parsed.hpkePublicKey
      tlsKeyFingerprint := parsed.tlsKeyFingerprint
      measurement := parsed.measurement
      domain := rfl }

/-- From the raw bytes the report can be read again, and passes. -/
theorem vouched_of_sound {now : Int} {bundle : AttestationBundle} {policy : TrustPolicy}
    {a : Attestation} {raw : Bytes} {sigstore : crates.Bundle} {envelope : DsseEnvelope}
    {cert : Certificate} {statement : Value} {key : crates.VerifyingKey} {product : AmdProduct}
    (sound : Sound crates now bundle policy a raw sigstore envelope cert statement key product)
    (first : product = .Genoa → ∀ der, crates.base64Decode bundle.vcek = .ok der →
      ∀ key', ¬ ChainsTo crates der .Milan key') :
    ∃ report der, Vouched crates now bundle policy raw report der key product ∧
      a = attestationOf bundle report := by
  obtain ⟨report, parses⟩ := parseReport_of sound.size sound.version
  have parsed := parseReport_ok parses
  obtain ⟨der, vcek, chains⟩ := sound.chain
  obtain ⟨r, s, sig, ofR, ofS, scalars, valid⟩ := sound.signed
  have sameR : r = report.signatureR := Vector.toList_inj.mp (ofR.trans parsed.signatureR.symm)
  have sameS : s = report.signatureS := Vector.toList_inj.mp (ofS.trans parsed.signatureS.symm)
  rw [sameR, sameS] at scalars
  have covered : report.signedData.toList = slice raw 0 0x2A0 := parsed.signedData
  rw [← covered] at valid
  have vmpl : report.vmpl = 0 := by
    apply UInt32.toNat_inj.mp
    rw [parsed.vmpl, sound.vmpl]
    rfl
  have family : product ≠ .Turin := by
    intro turin
    rcases sound.family with same | same <;> rw [turin] at same <;> cases same
  have deployed := sound.deployment
  rw [← parsed.measurement] at deployed
  have certificate := sound.certificate
  rw [← parsed.tlsKeyFingerprint] at certificate
  have same : a = attestationOf bundle report := by
    have hpke : a.hpkePublicKey = report.hpkePublicKey :=
      Vector.toList_inj.mp (sound.hpkePublicKey.trans parsed.hpkePublicKey.symm)
    have tls : a.tlsKeyFingerprint = report.tlsKeyFingerprint :=
      Vector.toList_inj.mp (sound.tlsKeyFingerprint.trans parsed.tlsKeyFingerprint.symm)
    have measured : a.measurement = report.measurement :=
      Vector.toList_inj.mp (sound.measurement.trans parsed.measurement.symm)
    obtain ⟨_, _, _, domain⟩ := a
    have named : domain = bundle.domain := sound.domain
    simp only at hpke tls measured
    rw [hpke, tls, measured, named]
    rfl
  refine ⟨report, der, ?_, same⟩
  exact
    { deployed := ⟨sigstore, envelope, cert, statement, deployed⟩
      decoded := decodeReportBody_ok.mpr ⟨Nat.le_of_eq sound.size, sound.decoded⟩
      parsed := parses
      vcek := vcek
      found := (findProduct_known sound.family).mpr
        ⟨chains, fun genoa key' => first genoa der vcek key'⟩
      trusted :=
        { measurement := rfl
          debug := fun required => (parsed.debugEnabled).trans (sound.debug required)
          vmpl := vmpl
          family := family
          tcb := tcb_components parsed sound.tcb
          signed := ⟨sig, scalars, valid⟩ }
      certificate := certificate }

/-- The steps find what they look for exactly when all the checks of the bytes hold. -/
theorem vouched_iff_sound {now : Int} {bundle : AttestationBundle} {policy : TrustPolicy}
    {a : Attestation} :
    (∃ raw report der key product, Vouched crates now bundle policy raw report der key product ∧
      a = attestationOf bundle report) ↔
      ∃ raw parsed envelope cert statement key product,
        Sound crates now bundle policy a raw parsed envelope cert statement key product ∧
        (product = .Genoa → ∀ der, crates.base64Decode bundle.vcek = .ok der →
          ∀ key', ¬ ChainsTo crates der .Milan key') := by
  apply Iff.intro
  · intro verified
    obtain ⟨raw, report, der, key, product, vouched, same⟩ := verified
    obtain ⟨sigstore, envelope, cert, statement, sound⟩ := sound_of_vouched vouched
    rw [same]
    refine ⟨raw, sigstore, envelope, cert, statement, key, product, sound, ?_⟩
    intro genoa der' decoded
    rw [vouched.vcek] at decoded
    cases decoded
    exact ((findProduct_known sound.family).mp vouched.found).2 genoa
  · intro checks
    obtain ⟨raw, sigstore, envelope, cert, statement, key, product, sound, first⟩ := checks
    obtain ⟨report, der, vouched, same⟩ := vouched_of_sound sound first
    exact ⟨raw, report, der, key, product, vouched, same⟩

/-- A bundle is accepted exactly when all the checks of its bytes hold, and what it attests is
where these checks looked. -/
theorem verify_bundle_exact (crates : Crates) (now : Int) (bundle : AttestationBundle)
    (policy : TrustPolicy) (a : Attestation) :
    verifyBundle crates now bundle policy = .ok a ↔
      ∃ raw parsed envelope cert statement key product,
        Sound crates now bundle policy a raw parsed envelope cert statement key product ∧
        (product = .Genoa → ∀ der, crates.base64Decode bundle.vcek = .ok der →
          ∀ key', ¬ ChainsTo crates der .Milan key') := by
  rw [verifyBundle_ok]
  exact vouched_iff_sound

/-! Other policies, and other times. -/

/-- At `now` a log entry of time `t` is neither stale nor in the future. -/
def InWindow (t now : Int) (maxAge : Option Nat) : Prop :=
  t ≤ now + FUTURE_TOLERANCE ∧ ∀ age, maxAge = some age → now - age ≤ t

/-- A policy and a time accept what has been attested: the entry of time `t`, the report `raw` and
the certificate of the bundle meet what this policy asks beyond the identity of the signer. -/
structure Admits (crates : Crates) (bundle : AttestationBundle) (raw : Bytes) (t now : Int)
    (policy : TrustPolicy) : Prop where
  fresh : InWindow t now policy.maxAttestationAge
  debug : policy.requireDebugDisabled = true → (ofBytes (slice raw 0x08 0x10)).testBit 19 = false
  certificate : policy.checkEnclaveCertificate = true →
    ∃ cert, Covers crates bundle.enclaveCert bundle.domain (slice raw 0x50 0x70) cert

theorem fresh_window {now : Int} {bundle : AttestationBundle} {maxAge : Option Nat} {t : Int}
    (logged : rekorIntegratedTime crates bundle = .ok t) :
    Fresh now bundle maxAge ↔ InWindow t now maxAge := by
  have checks : Fresh now bundle maxAge ↔ ∃ integratedAt,
      rekorIntegratedTime crates bundle = .ok integratedAt ∧
        ∃ u, checkAttestationAge now integratedAt maxAge = .ok u := fresh_iff.symm
  rw [checks]
  apply Iff.intro
  · intro accepted
    obtain ⟨t', logged', u, aged⟩ := accepted
    rw [logged] at logged'
    cases logged'
    exact checkAttestationAge_ok.mp aged
  · intro window
    exact ⟨t, logged, (), checkAttestationAge_ok.mpr window⟩

/-- Of the policy the build attestation reads the identity of the signer and the age. -/
theorem Deployed.under {now now' : Int} {bundle : AttestationBundle} {policy policy' : TrustPolicy}
    {parsed : crates.Bundle} {envelope : DsseEnvelope} {cert : Certificate} {statement : Value}
    {measurement : Bytes}
    (deployed : Deployed crates now bundle policy parsed envelope cert statement measurement)
    (repository : policy'.signerRepository = policy.signerRepository)
    (issuer : policy'.oidcIssuer = policy.oidcIssuer)
    (fresh : Fresh now' bundle policy'.maxAttestationAge) :
    Deployed crates now' bundle policy' parsed envelope cert statement measurement where
  pinned := by
    rw [repository]
    exact deployed.pinned
  parses := deployed.parses
  fresh := fresh
  content := deployed.content
  signedOnce := deployed.signedOnce
  verified := by
    rw [issuer]
    exact deployed.verified
  leaf := deployed.leaf
  repository := by
    rw [repository]
    exact deployed.repository
  payload := deployed.payload
  subject := deployed.subject
  predicateType := deployed.predicateType
  measurement := deployed.measurement
  measurementSize := deployed.measurementSize

/-- What was vouched for once is vouched for wherever it is admitted. -/
theorem Vouched.under {now now' : Int} {bundle : AttestationBundle} {policy policy' : TrustPolicy}
    {raw : Bytes} {report : Report} {der : Bytes} {key : crates.VerifyingKey} {product : AmdProduct}
    (vouched : Vouched crates now bundle policy raw report der key product) {t : Int}
    (logged : rekorIntegratedTime crates bundle = .ok t)
    (repository : policy'.signerRepository = policy.signerRepository)
    (issuer : policy'.oidcIssuer = policy.oidcIssuer)
    (admits : Admits crates bundle raw t now' policy') :
    Vouched crates now' bundle policy' raw report der key product := by
  have parsed := parseReport_ok vouched.parsed
  have trusted := vouched.trusted
  obtain ⟨sigstore, envelope, cert, statement, deployed⟩ := vouched.deployed
  have fresh := (fresh_window logged).mpr admits.fresh
  exact
    { deployed := ⟨sigstore, envelope, cert, statement, deployed.under repository issuer fresh⟩
      decoded := vouched.decoded
      parsed := vouched.parsed
      vcek := vouched.vcek
      found := vouched.found
      trusted :=
        { measurement := rfl
          debug := fun required => parsed.debugEnabled.trans (admits.debug required)
          vmpl := trusted.vmpl
          family := trusted.family
          tcb := trusted.tcb
          signed := trusted.signed }
      certificate := fun required => parsed.tlsKeyFingerprint.symm ▸ admits.certificate required }

theorem Vouched.admits {now : Int} {bundle : AttestationBundle} {policy : TrustPolicy}
    {raw : Bytes} {report : Report} {der : Bytes} {key : crates.VerifyingKey} {product : AmdProduct}
    (vouched : Vouched crates now bundle policy raw report der key product) {t : Int}
    (logged : rekorIntegratedTime crates bundle = .ok t) : Admits crates bundle raw t now policy := by
  have parsed := parseReport_ok vouched.parsed
  obtain ⟨_, _, _, _, deployed⟩ := vouched.deployed
  exact
    { fresh := (fresh_window logged).mp deployed.fresh
      debug := fun required => parsed.debugEnabled ▸ vouched.trusted.debug required
      certificate := fun required => parsed.tlsKeyFingerprint ▸ vouched.certificate required }

/-- An accepted bundle is accepted by the policies with that signer and at the times that admit it,
by no others, and attests the same under all of them: until the day its log entry is too old, and
not again, a replay changes nothing. -/
theorem acceptance_region (crates : Crates) (now : Int) (bundle : AttestationBundle)
    (policy : TrustPolicy) (a : Attestation)
    (verified : verifyBundle crates now bundle policy = .ok a) :
    ∃ raw t, decodeReportBody crates bundle.enclaveAttestationReport.body = .ok raw ∧
      rekorIntegratedTime crates bundle = .ok t ∧
      ∀ now' policy' b, policy'.signerRepository = policy.signerRepository →
        policy'.oidcIssuer = policy.oidcIssuer →
        (verifyBundle crates now' bundle policy' = .ok b ↔
          b = a ∧ Admits crates bundle raw t now' policy') := by
  obtain ⟨raw, report, der, key, product, vouched, same⟩ := verifyBundle_ok.mp verified
  obtain ⟨_, _, _, _, deployed⟩ := vouched.deployed
  obtain ⟨t, logged, _⟩ := fresh_iff.mpr deployed.fresh
  refine ⟨raw, t, vouched.decoded, logged, ?_⟩
  intro now' policy' b repository issuer
  apply Iff.intro
  · intro again
    obtain ⟨raw', report', der', key', product', vouched', same'⟩ := verifyBundle_ok.mp again
    have decoded := vouched'.decoded
    rw [vouched.decoded] at decoded
    cases decoded
    have parsed := vouched'.parsed
    rw [vouched.parsed] at parsed
    cases parsed
    exact ⟨same'.trans same.symm, vouched'.admits logged⟩
  · intro admitted
    obtain ⟨same', admits⟩ := admitted
    exact verifyBundle_ok.mpr ⟨raw, report, der, key, product,
      vouched.under logged repository issuer admits, same'.trans same⟩

/-- To the nanosecond: accepted 90 days after it was logged, and refused just behind that. -/
theorem acceptance_region_zeroBundle : ∃ a,
    verifyBundle lenient DEFAULT_MAX_ATTESTATION_AGE zeroBundle routerPolicy = .ok a ∧
      ∀ b, verifyBundle lenient (DEFAULT_MAX_ATTESTATION_AGE + 1) zeroBundle routerPolicy ≠ .ok b := by
  have accepted := verifyBundle_zeroBundle
  have logged : rekorIntegratedTime lenient zeroBundle = .ok 0 := by decide
  cases verified : verifyBundle lenient 0 zeroBundle routerPolicy with
  | error e =>
    rw [verified] at accepted
    cases accepted
  | ok a =>
    obtain ⟨raw, t, _, logged', region⟩ :=
      acceptance_region lenient 0 zeroBundle routerPolicy a verified
    rw [logged] at logged'
    cases logged'
    obtain ⟨_, admits⟩ := (region 0 routerPolicy a rfl rfl).mp verified
    have kept : InWindow 0 DEFAULT_MAX_ATTESTATION_AGE routerPolicy.maxAttestationAge := by
      apply And.intro
      · decide
      · intro age given
        cases given
        decide
    refine ⟨a, (region _ routerPolicy a rfl rfl).mpr ⟨rfl, kept, admits.debug, admits.certificate⟩, ?_⟩
    intro b late
    have old := ((region _ routerPolicy b rfl rfl).mp late).2.fresh.2 _ rfl
    revert old
    decide

end PpqTee.Attest
