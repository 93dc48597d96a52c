import PpqTee.Attest.Bundle

/-! Which of the transparency log entries of a bundle the age check looks at: the first, and none
behind it, although the verifier is given all of them. -/

namespace PpqTee.Attest

def tlogEntries (bundle : AttestationBundle) : List Value :=
  match (bundle.sigstoreBundle.key "verificationMaterial").key "tlogEntries" with
  | .array entries => entries
  | _ => []

/-- The entry has a time within `maxAge` of `now`, and not in the future. -/
def FreshEntry (now : Int) (maxAge : Nat) (entry : Value) : Prop :=
  ∃ raw secs, entry.key "integratedTime" = .string raw ∧ parseU64 raw = .ok secs ∧
    now - maxAge ≤ Duration.fromSecs secs ∧ (Duration.fromSecs secs : Int) ≤ now + FUTURE_TOLERANCE

variable {crates : Crates}

theorem fresh_first {now : Int} {bundle : AttestationBundle} {maxAge : Nat}
    (fresh : Fresh now bundle (some maxAge)) :
    ∃ first rest, tlogEntries bundle = first :: rest ∧ FreshEntry now maxAge first := by
  obtain ⟨raw, secs, same, read, _, early, young⟩ := fresh
  unfold tlogEntries
  generalize (bundle.sigstoreBundle.key "verificationMaterial").key "tlogEntries" = entries at same
  cases entries with
  | array entries =>
    cases entries with
    | nil => cases same
    | cons first rest => exact ⟨first, rest, rfl, raw, secs, same, read, young maxAge rfl, early⟩
  | null | bool _ | number _ | string _ | object _ => cases same

theorem rekorIntegratedTime_representable {bundle : AttestationBundle} {t : Int}
    (read : rekorIntegratedTime crates bundle = .ok t) :
    ∃ secs : Nat, secs < 2 ^ 63 ∧ t = Duration.fromSecs secs := by
  simp only [rekorIntegratedTime, bind_ok, okOr_ok, mapError_ok, checkedAddEpoch_some] at read
  obtain ⟨_, _, secs, _, fits, same⟩ := read
  exact ⟨secs, fits, same⟩

/-- All the entries of an accepted bundle are fresh exactly when those behind the first are; and
whatever time the first gives, it is used only if the clock can represent it. -/
theorem entries_fresh_iff (crates : Crates) (now : Int) (bundle : AttestationBundle)
    (policy : TrustPolicy) (maxAge : Nat) (limited : policy.maxAttestationAge = some maxAge)
    (deployment : DeploymentPredicate)
    (accepted : verifyDeployment crates now bundle policy = .ok deployment) :
    ((∀ entry ∈ tlogEntries bundle, FreshEntry now maxAge entry) ↔
      ∀ entry ∈ (tlogEntries bundle).tail, FreshEntry now maxAge entry) ∧
    Fails IsAttestation (rekorIntegratedTime crates bundle) ∧
    ∀ t, rekorIntegratedTime crates bundle = .ok t →
      ∃ secs : Nat, secs < 2 ^ 63 ∧ t = Duration.fromSecs secs := by
  obtain ⟨_, _, _, _, deployed⟩ := verifyDeployment_ok.mp accepted
  have fresh := deployed.fresh
  rw [limited] at fresh
  obtain ⟨first, rest, entries, young⟩ := fresh_first fresh
  refine ⟨?_, rekorIntegratedTime_refuses bundle, fun t => rekorIntegratedTime_representable⟩
  rw [entries, List.forall_mem_cons, List.tail_cons]
  exact and_iff_right young

def tlogEntry (integratedTime : String) : Value := .object [("integratedTime", .string integratedTime)]

/-- A fresh entry, and one of 1970 behind it. -/
def staleBundle : AttestationBundle :=
  { zeroBundle with
    sigstoreBundle := .object [("verificationMaterial", .object [("tlogEntries",
      .array [tlogEntry "1700000000", tlogEntry "0"])])] }

theorem fresh_staleBundle : Fresh (Duration.fromSecs 1700000000) staleBundle
    routerPolicy.maxAttestationAge :=
  ⟨"1700000000", 1700000000, rfl, by decide, by decide, by decide, fun age given => by
    cases given
    decide⟩

theorem verifyDeployment_staleBundle :
    verifyDeployment lenient (Duration.fromSecs 1700000000) staleBundle routerPolicy =
      .ok ⟨List.replicate 48 0⟩ :=
  verifyDeployment_ok.mpr ⟨_, _, _, _, deployed_lenient rfl fresh_staleBundle⟩

/-- The stale entry is accepted behind the fresh one. -/
theorem stale_entry_accepted :
    verifyDeployment lenient (Duration.fromSecs 1700000000) staleBundle routerPolicy =
      .ok ⟨List.replicate 48 0⟩ ∧
    routerPolicy.maxAttestationAge = some DEFAULT_MAX_ATTESTATION_AGE ∧
    ∃ entry ∈ tlogEntries staleBundle,
      ¬ FreshEntry (Duration.fromSecs 1700000000) DEFAULT_MAX_ATTESTATION_AGE entry := by
  have entries : tlogEntries staleBundle = [tlogEntry "1700000000", tlogEntry "0"] := rfl
  refine ⟨verifyDeployment_staleBundle, rfl, tlogEntry "0", by simp [entries], ?_⟩
  intro fresh
  obtain ⟨raw, secs, same, read, young, _⟩ := fresh
  have time : (tlogEntry "0").key "integratedTime" = .string "0" := rfl
  have epoch : parseU64 "0" = .ok 0 := rfl
  rw [time] at same
  cases same
  rw [epoch] at read
  cases read
  exact absurd young (by decide)

/-- Two entries, the second a minute older than the first. -/
def freshBundle : AttestationBundle :=
  { zeroBundle with
    sigstoreBundle := .object [("verificationMaterial", .object [("tlogEntries",
      .array [tlogEntry "1700000000", tlogEntry "1699999940"])])] }

theorem fresh_freshBundle : Fresh (Duration.fromSecs 1700000000) freshBundle
    routerPolicy.maxAttestationAge :=
  ⟨"1700000000", 1700000000, rfl, by decide, by decide, by decide, fun age given => by
    cases given
    decide⟩

theorem entries_fresh_iff_freshBundle :
    (tlogEntries freshBundle).length = 2 ∧ ∀ entry ∈ tlogEntries freshBundle,
      FreshEntry (Duration.fromSecs 1700000000) DEFAULT_MAX_ATTESTATION_AGE entry := by
  refine ⟨rfl, ?_⟩
  apply (entries_fresh_iff lenient (Duration.fromSecs 1700000000) freshBundle routerPolicy
    DEFAULT_MAX_ATTESTATION_AGE rfl ⟨List.replicate 48 0⟩ (verifyDeployment_ok.mpr
      ⟨_, _, _, _, deployed_lenient rfl fresh_freshBundle⟩)).1.mpr
  intro entry member
  have entries : (tlogEntries freshBundle).tail = [tlogEntry "1699999940"] := rfl
  rw [entries, List.mem_singleton] at member
  rw [member]
  exact ⟨"1699999940", 1699999940, rfl, by decide, by decide, by decide⟩

end PpqTee.Attest
