import PpqTee.Proxy.Progress
import PpqTee.Proxy.Retry

/-! What all this is for: the enclave is redeployed with another key, and the proxy gets over it
on its own. -/

namespace PpqTee.Proxy

variable {C B T : Type} {policy : ReattestPolicy}

/-- Attestations that end at the time `change` or later succeed: they are of the key that the enclave
has from then on. -/
def Attests (change : Nat) (trace : List (Event C B T)) : Prop :=
  ∀ m i e, (m, .attested i (.error e)) ∈ trace → m.now < change

/-- What request `i` failed on, and that it was no stale key: a client of the new key, an error that
no stale key leads to, or a client that was too young to be doubted. -/
def Explained (policy : ReattestPolicy) (change since : Nat) (trace : List (Event C B T)) (i : Nat)
    (e : Error) : Prop :=
  ∃ m body cached, (m, .finish i (.error e)) ∈ trace ∧ (m.tasks i).runs = some (body, cached) ∧
    since ≤ m.now ∧ (change ≤ cached.attestedAt ∨ warrantsReattest e = false ∨
      m.now < cached.attestedAt + policy.minReattestInterval)

/-- Whatever is in the slot instead of this client is of the new key. -/
def Newest (change : Nat) (s : State C B T) (cached : Cached C) : Prop :=
  ∀ current, s.slot = some current →
    current.client.ptr = cached.client.ptr ∨ change ≤ current.attestedAt

/-- What holds of a request that arrived at the time `since`, when the key had changed. -/
def Healing (policy : ReattestPolicy) (change since : Nat) (trace : List (Event C B T)) (s : State C B T)
    (i : Nat) : Task C B T → Prop
  | .running _ cached => Newest change s cached
  | .waiting _ (.failed stale) | .attesting _ (.failed stale) => Newest change s stale
  | .retrying _ fresh => change ≤ fresh.attestedAt
  | .done (.error e) => Explained policy change since trace i e
  | _ => True

variable {change since : Nat} {trace : List (Event C B T)} {s s' : State C B T} {a : Action C B T}

theorem Attests.before {event : Event C B T} (attests : Attests change (trace ++ [event])) :
    Attests change trace :=
  fun m i e member => attests m i e (List.mem_append_left _ member)

theorem Explained.snoc {i : Nat} {e : Error} (explained : Explained policy change since trace i e)
    (event : Event C B T) : Explained policy change since (trace ++ [event]) i e := by
  obtain ⟨m, body, cached, member, rest⟩ := explained
  exact ⟨m, body, cached, List.mem_append_left _ member, rest⟩

theorem newest_step {cached : Cached C} (newest : Newest change s cached)
    (moves : Moves policy s a s') (changed : change ≤ s.now) : Newest change s' cached := by
  intro current present
  rcases slot_after moves present with before | ⟨_, time, _⟩
  · exact newest current before
  · rw [time]
    exact .inr changed

/-- Others may only put a client of the new key into the slot. -/
theorem Healing.keep {i : Nat} {task : Task C B T} (healing : Healing policy change since trace s i task)
    (moves : Moves policy s a s') (changed : change ≤ s.now) (event : Event C B T) :
    Healing policy change since (trace ++ [event]) s' i task := by
  cases task with
  | running body cached => exact newest_step healing moves changed
  | waiting body cause =>
    cases cause with
    | aged seen => trivial
    | failed stale => exact newest_step healing moves changed
  | attesting body cause =>
    cases cause with
    | aged seen => trivial
    | failed stale => exact newest_step healing moves changed
  | retrying body fresh => exact healing
  | done result =>
    cases result with
    | ok v => trivial
    | error e => exact healing.snoc event
  | idle => trivial
  | reading body => trivial
  | cancelled => trivial

theorem healing_step {i : Nat} (attests : Attests change (trace ++ [(s, a)]))
    (healing : Healing policy change since trace s i (s.tasks i)) (behind : change ≤ since)
    (later : since ≤ s.now) (moves : Moves policy s a s') :
    Healing policy change since (trace ++ [(s, a)]) s' i (s'.tasks i) := by
  have changed : change ≤ s.now := Nat.le_trans behind later
  have last : (s, a) ∈ trace ++ [(s, a)] := List.mem_append_right _ (List.mem_singleton.mpr rfl)
  have kept := healing.keep moves changed (s, a)
  by_cases other : a.request ≠ some i
  · rw [tasks_other moves other]
    exact kept
  have own : a.request = some i := not_not.mp other
  cases moves with
  | tick d => cases own
  | @arrive j body idle =>
    cases own
    rw [set_same]
    trivial
  | @hit j body c reads _ current _ =>
    cases own
    rw [set_same]
    intro present slot
    rw [set_slot, current] at slot
    cases slot
    exact .inl rfl
  | @miss j body reads _ _ =>
    cases own
    rw [set_same]
    trivial
  | @found j body cause current waits _ found =>
    cases own
    obtain ⟨slot, arc, same, apart⟩ := replacement_slot found
    rw [set_same]
    rw [waits] at healing
    cases cause with
    | aged seen => cases same
    | failed stale =>
      cases same
      exact (healing current slot).resolve_left apart
  | @clear j body cause waits _ _ =>
    cases own
    rw [waits] at kept
    simp only [set_same]
    cases cause with
    | aged seen => trivial
    | failed stale => exact kept
  | @store j body cause client attests =>
    cases own
    simp only [set_same]
    cases cause with
    | aged seen =>
      intro current slot
      cases slot
      exact .inl rfl
    | failed stale => exact changed
  | @fail j body cause e _ =>
    have early := attests s j e last
    omega
  | @fault j body cached err runs fails =>
    cases own
    rw [runs] at kept
    rw [set_same]
    exact kept
  | @answer j body cached outcome runs final =>
    cases own
    rw [set_same]
    cases outcome with
    | ok v => trivial
    | error e =>
      have running : (s.tasks i).runs = some (body, cached) := by
        rw [runs]
        rfl
      have excused := final e rfl
      simp only [retries, Bool.not_eq_false', Bool.or_eq_true, Bool.not_eq_true',
        decide_eq_true_eq] at excused
      refine ⟨s, body, cached, last, running, later, .inr ?_⟩
      rcases excused with harmless | young
      · exact .inl harmless
      · exact .inr (by omega)
  | @conclude j body fresh outcome runs =>
    cases own
    rw [set_same]
    rw [runs] at healing
    have renewed : change ≤ fresh.attestedAt := healing
    cases outcome with
    | ok v => trivial
    | error e => exact ⟨s, body, fresh, last, by rw [runs]; rfl, later, .inl renewed⟩
  | @drop j calm =>
    cases own
    rw [set_same]
    trivial
  | @abandon j body cause attests =>
    cases own
    simp only [set_same]
    trivial

/-- A request that arrived at `since` is healing, if attestations do not fail. -/
def Heals (policy : ReattestPolicy) (change since i : Nat) (trace : List (Event C B T))
    (s : State C B T) : Prop :=
  Attests change trace → (∃ m body, (m, .arrive i body) ∈ trace ∧ m.now = since) →
    since ≤ s.now ∧ Healing policy change since trace s i (s.tasks i)

theorem heals_run {now : Nat} {client : C} (behind : change ≤ since) (i : Nat)
    (run : Transition.Run (step policy) (Attested.new now client) trace s) :
    Heals policy change since i trace s := by
  apply run.invariant
  · intro _ arrived
    obtain ⟨_, _, member, _⟩ := arrived
    cases member
  · intro trace s a s' _ earlier taken attests arrived
    have moves := step_moves taken
    have passes := now_le moves
    obtain ⟨m, body, member, time⟩ := arrived
    rcases List.mem_append.mp member with before | here
    · obtain ⟨later, healing⟩ := earlier attests.before ⟨m, body, before, time⟩
      exact ⟨Nat.le_trans later passes, healing_step attests healing behind later moves⟩
    · cases List.mem_singleton.mp here
      refine ⟨time ▸ passes, ?_⟩
      cases moves with
      | arrive idle =>
        rw [set_same]
        trivial

/-- Behind a redeployment no request fails for the old key, but on a client too young to be doubted;
and none at all that arrives `min_reattest_interval` later. -/
theorem redeploy_heals (policy : ReattestPolicy) (now : Nat) (client : C)
    (trace : List (Event C B T)) (s : State C B T)
    (run : Transition.Run (step policy) (Attested.new now client) trace s) (change : Nat)
    (attests : Attests change trace) (i : Nat) (m : State C B T) (body : B)
    (arrives : (m, .arrive i body) ∈ trace) (behind : change ≤ m.now) (e : Error)
    (failed : s.tasks i = .done (.error e)) :
    Explained policy change m.now trace i e ∧
      (change + policy.minReattestInterval ≤ m.now → ∃ m' body' cached,
        (m', .finish i (.error e)) ∈ trace ∧ (m'.tasks i).runs = some (body', cached) ∧
        (change ≤ cached.attestedAt ∨ warrantsReattest e = false)) := by
  have healing := (heals_run behind i run attests ⟨m, body, arrives, rfl⟩).2
  rw [failed] at healing
  have explained : Explained policy change m.now trace i e := healing
  refine ⟨explained, ?_⟩
  intro waited
  obtain ⟨m', body', cached, member, runs, later, cause⟩ := explained
  refine ⟨m', body', cached, member, runs, ?_⟩
  rcases cause with renewed | harmless | young
  · exact .inl renewed
  · exact .inr harmless
  · exact .inl (by omega)

/-- The key changes ten seconds behind the attestation, and a request comes along before anyone may
doubt the client. -/
def doubted : List (Event Nat Unit Nat) × State Nat Unit Nat :=
  Transition.execute (step default) (Attested.new 0 0)
    [.tick (Duration.fromSecs 10), .arrive 0 (), .read 0, .finish 0 (.error (.ehbp "tag mismatch"))]

theorem doubted_events : ∃ a m b c, doubted.1 =
    [(a, .tick (Duration.fromSecs 10)), (m, .arrive 0 ()), (b, .read 0),
      (c, .finish 0 (.error (.ehbp "tag mismatch")))] ∧ m.now = Duration.fromSecs 10 :=
  ⟨_, _, _, _, rfl, rfl⟩

theorem redeploy_heals_doubted :
    ∃ since, Explained default (Duration.fromSecs 10) since doubted.1 0 (.ehbp "tag mismatch") := by
  obtain ⟨a, m, b, c, whole, time⟩ := doubted_events
  have arrives : (m, .arrive 0 ()) ∈ doubted.1 := by simp [whole]
  have attests : Attests (Duration.fromSecs 10) doubted.1 := by
    intro m' i e member
    rw [whole] at member
    simp at member
  exact ⟨m.now, (redeploy_heals default 0 0 doubted.1 doubted.2 (Transition.Run.execute _ _ _)
    (Duration.fromSecs 10) attests 0 m () arrives (Nat.le_of_eq time.symm) (.ehbp "tag mismatch")
    rfl).1⟩

/-- From the time `change` on, an operation fails only as one on a client of the old key can. -/
def Serviceable (change : Nat) (trace : List (Event C B T)) : Prop :=
  ∀ m i e body cached, (m, .finish i (.error e)) ∈ trace → change ≤ m.now →
    (m.tasks i).runs = some (body, cached) →
    cached.attestedAt < change ∧ warrantsReattest e = true

/-- And it is not only that nothing fails: over every fair run, a request that arrives an interval or
more behind the change and is not dropped by its caller is answered, and with no error. -/
theorem redeploy_answers (policy : ReattestPolicy) (now : Nat) (client : C)
    (run : Transition.Infinite (step policy) (Attested.new now client : State C B T))
    (fair : Fair run) (change : Nat) (attests : ∀ n, Attests change (run.trace n))
    (serviceable : ∀ n, Serviceable change (run.trace n)) (i n : Nat) (body : B)
    (arrives : run.action n = .arrive i body)
    (behind : change + policy.minReattestInterval ≤ (run.state n).now)
    (kept : ∀ m, run.action m ≠ .cancel i) :
    ∃ m ≥ n, ∃ reply, (run.state m).tasks i = .done (.ok reply) := by
  obtain ⟨m, later, result, done⟩ := lives_settles fair (n + 1) (lives_arrive arrives) kept
  cases result with
  | ok reply => exact ⟨m, by omega, reply, done⟩
  | error e =>
    have arrived : (run.state n, .arrive i body) ∈ run.trace m :=
      Transition.Infinite.mem_trace.mpr ⟨n, by omega, rfl, arrives⟩
    have changed : change ≤ (run.state n).now := by omega
    have healing := (heals_run changed i (run.finite m) (attests m)
      ⟨run.state n, body, arrived, rfl⟩).2
    rw [done] at healing
    have explained : Explained policy change (run.state n).now (run.trace m) i e := healing
    obtain ⟨m', body', cached, member, runs, since, cause⟩ := explained
    obtain ⟨old, doubtful⟩ := serviceable m m' i e body' cached member (by omega) runs
    rcases cause with renewed | harmless | young
    · omega
    · rw [doubtful] at harmless
      cases harmless
    · omega

/-! In the run of the two, the key changes after a minute. Both fail on the client of the old one,
half a minute later. -/

theorem attests_contended (n : Nat) : Attests (Duration.fromSecs 60) (contended.trace n) := by
  intro m i e member
  obtain ⟨k, _, _, attested⟩ := Transition.Infinite.mem_trace.mp member
  change contendedAction k = _ at attested
  unfold contendedAction at attested
  split at attested <;> cases attested

theorem serviceable_contended (n : Nat) :
    Serviceable (Duration.fromSecs 60) (contended.trace n) := by
  intro m i e body cached member _ runs
  obtain ⟨k, _, here, finished⟩ := Transition.Infinite.mem_trace.mp member
  subst here
  change contendedAction k = _ at finished
  unfold contendedAction at finished
  split at finished <;> cases finished
  · cases runs
    exact ⟨by decide, rfl⟩
  · cases runs
    exact ⟨by decide, rfl⟩

theorem redeploy_answers_contended :
    ∃ m ≥ 2, ∃ reply, (contended.state m).tasks 1 = .done (.ok reply) :=
  redeploy_answers default 0 0 contended fair_contended (Duration.fromSecs 60) attests_contended
    serviceable_contended 1 2 () rfl (by decide) fun m => contended_kept m 1

end PpqTee.Proxy
