import PpqTee.Proxy.Coherent

/-! When a client is replaced, how often the enclave is attested, and which client a request
gets: what holds along every run, and on which runs the rest holds. -/

namespace PpqTee.Proxy

variable {C B T : Type} {policy : ReattestPolicy}

/-- At most one attestation is in flight, clients are handed out in the order they were
attested in, and one that was cleared is never handed out again, nor any before it. -/
theorem replaced_client_never_returns (policy : ReattestPolicy) (now : Nat) (client : C)
    (trace : List (Event C B T)) (s : State C B T)
    (run : Transition.Run (step policy) (Attested.new now client) trace s) :
    (∀ i j, (s.tasks i).attests = true → (s.tasks j).attests = true → i = j) ∧
    (trace.filterMap (handsOut policy)).Pairwise (fun c d => c.client.ptr ≤ d.client.ptr) ∧
    trace.Pairwise fun e later => ∀ g, clears e = some g →
      ∀ c, handsOut policy later = some c → g.client.ptr < c.client.ptr := by
  refine ⟨fun i j => (coherent_run run).alone, ?_, ?_⟩
  · rw [List.pairwise_filterMap]
    apply run.pairwise
    intro before s a after _ earlier e member c first d second
    have given := (history_run earlier).handed e member c first
    rcases handsOut_cases second with current | ⟨number, -⟩
    · have newest := (coherent_run earlier).newest d current
      omega
    · omega
  · apply run.pairwise
    intro before s a after _ earlier e member g cleared c handed
    obtain ⟨cause, started, old⟩ := Option.bind_eq_some_iff.mp cleared
    have history := history_run earlier
    obtain ⟨front, _, reached, _⟩ := earlier.of_mem member
    have newest := (coherent_run reached).newest g old
    rcases handsOut_cases handed with current | ⟨number, -⟩
    · have later := (history.started e member cause started c current).1
      omega
    · have grown := history.minted e member
      omega

/-- Two requests fail on the first client, and one attestation serves both. A third fails on the
second client half a minute later. An hour on, two find the third client aged out; one of them gets
the lock so late that the client of the other has aged out in its turn. -/
def overlapped : List (Event Unit Unit Unit) × State Unit Unit Unit :=
  Transition.execute (step default) (Attested.new 0 ())
    [.arrive 0 (), .arrive 1 (), .read 0, .read 1, .tick (Duration.fromSecs 30),
      .finish 0 (.error (.http ⟨"timed out"⟩)), .finish 1 (.error (.http ⟨"timed out"⟩)),
      .acquire 0, .attested 0 (.ok ()), .acquire 1, .finish 0 (.ok ()), .arrive 2 (), .read 2,
      .tick (Duration.fromSecs 30), .finish 1 (.ok ()), .finish 2 (.error (.http ⟨"timed out"⟩)),
      .acquire 2, .attested 2 (.ok ()), .finish 2 (.ok ()), .tick (Duration.fromSecs 3600),
      .arrive 3 (), .arrive 4 (), .read 3, .read 4, .acquire 3, .attested 3 (.ok ()),
      .tick (Duration.fromSecs 3600), .acquire 4, .attested 4 (.ok ()), .finish 4 (.ok ()),
      .finish 3 (.ok ())]

theorem replaced_client_never_returns_overlapped :
    (overlapped.1.filterMap (handsOut default)).map (fun c => c.client.ptr) =
        [0, 0, 1, 1, 1, 2, 3, 4] ∧
      (overlapped.1.filterMap clears).map (fun c => c.client.ptr) = [0, 1, 2, 3] ∧
      overlapped.1.Pairwise fun e later => ∀ g, clears e = some g →
        ∀ c, handsOut default later = some c → g.client.ptr < c.client.ptr := by
  refine ⟨by decide, by decide, ?_⟩
  exact (replaced_client_never_returns default 0 () overlapped.1 overlapped.2
    (Transition.Run.execute _ _ _)).2.2

/-- Two attestations started on behalf of failed operations are an interval apart. -/
def RateLimited (policy : ReattestPolicy) (trace : List (Event C B T)) : Prop :=
  trace.Pairwise fun e later => ∀ stale stale', starts e = some (.failed stale) →
    starts later = some (.failed stale') → e.1.now + policy.minReattestInterval ≤ later.1.now

/-- A failed request that finds the slot empty takes the lock an interval or more after every
earlier attestation that was started on behalf of another. -/
def EmptySlotSpaced (policy : ReattestPolicy) (trace : List (Event C B T)) : Prop :=
  ∀ before s i after body stale, trace = before ++ (s, .acquire i) :: after →
    s.tasks i = .waiting body (.failed stale) → s.slot = none →
    ∀ e ∈ before, ∀ earlier, starts e = some (.failed earlier) →
      e.1.now + policy.minReattestInterval ≤ s.now

/-- On a slot that is not empty, the age of the failed client bounds the rate. -/
theorem spaced_of_slot {now : Nat} {client : C} {trace : List (Event C B T)} {s : State C B T}
    {a : Action C B T} {e : Event C B T} {stale stale' c : Cached C}
    (run : Transition.Run (step policy) (Attested.new now client) trace s) (member : e ∈ trace)
    (first : starts e = some (.failed stale)) (second : starts (s, a) = some (.failed stale'))
    (current : s.slot = some c) : e.1.now + policy.minReattestInterval ≤ s.now := by
  obtain ⟨i, body, _, waits, unreplaced⟩ := starts_acquire second
  have coherent := coherent_run run
  -- nothing replaced the client that failed, so it is the one in the slot
  have same : stale'.client.ptr = c.client.ptr := by
    rw [current] at unreplaced
    simpa [replacement, Cause.stale, eq_comm] using unreplaced
  have known := coherent.held i stale' (by rw [waits]; rfl)
  have identical := known.same c current same
  have matured := coherent.matured i stale' (by rw [waits]; rfl)
  have after := ((history_run run).started e member _ first c current).2
  rw [identical] at matured
  omega

theorem starts_of_empty {s : State C B T} {i : Nat} {body : B} {stale : Cached C}
    (waits : s.tasks i = .waiting body (.failed stale)) (empty : s.slot = none) :
    starts (s, .acquire i) = some (.failed stale) := by
  simp [starts, waits, empty, replacement]

/-- Failure-triggered attestations are rate limited exactly as long as none of them starts
early on an empty slot. -/
theorem rate_limited_iff (policy : ReattestPolicy) (now : Nat) (client : C)
    (trace : List (Event C B T)) (s : State C B T)
    (run : Transition.Run (step policy) (Attested.new now client) trace s) :
    RateLimited policy trace ↔ EmptySlotSpaced policy trace := by
  constructor
  · intro limited before m i after body stale whole waits empty e member earlier first
    subst whole
    have pairs := (List.pairwise_append.mp limited).2.2
    exact pairs e member (m, .acquire i) (by simp) earlier stale first
      (starts_of_empty waits empty)
  · intro spaced
    apply run.pairwise
    intro before m a after whole reached e member stale stale' first second
    cases current : m.slot with
    | some c => exact spaced_of_slot reached member first second current
    | none =>
      obtain ⟨i, body, acquires, waits, _⟩ := starts_acquire second
      subst acquires
      exact spaced before m i after body stale' whole waits current e member stale first

theorem rate_limited_iff_overlapped :
    (overlapped.1.filterMap fun e => (starts e).map fun cause => (e.1.now, cause.stale.map Arc.ptr)) =
        [(Duration.fromSecs 30, some 0), (Duration.fromSecs 60, some 1),
          (Duration.fromSecs 3660, none), (Duration.fromSecs 7260, none)] ∧
      (RateLimited default overlapped.1 ↔ EmptySlotSpaced default overlapped.1) :=
  ⟨by decide,
    rate_limited_iff default 0 () overlapped.1 overlapped.2 (Transition.Run.execute _ _ _)⟩

/-- Two requests fail on the first client. The attestation for the one fails, and leaves the
slot empty for the other. -/
def outage : List (Event Unit Unit Unit) × State Unit Unit Unit :=
  Transition.execute (step default) (Attested.new 0 ())
    [.arrive 0 (), .arrive 1 (), .read 0, .read 1, .tick (Duration.fromSecs 30),
      .finish 0 (.error (.http ⟨"timed out"⟩)), .finish 1 (.error (.http ⟨"timed out"⟩)),
      .acquire 0, .attested 0 (.error (.attestation "timed out")), .acquire 1]

theorem outage_not_rate_limited :
    Transition.Run (step default) (Attested.new 0 ()) outage.1 outage.2 ∧
      ¬ RateLimited default outage.1 := by
  refine ⟨Transition.Run.execute _ _ _, ?_⟩
  intro limited
  have spaced := List.pairwise_iff_getElem.mp limited 7 9 (by decide) (by decide) (by decide)
    ⟨0, ⟨0, ()⟩⟩ ⟨0, ⟨0, ()⟩⟩ rfl rfl
  revert spaced
  decide

/-- Every client is younger than `reattest_after` when it is handed to an operation. -/
def AgeBounded (policy : ReattestPolicy) (trace : List (Event C B T)) : Prop :=
  ∀ e ∈ trace, ∀ c, handsOut policy e = some c → e.1.now - c.attestedAt < policy.reattestAfter

/-- A failed request that finds another client in the slot takes the lock less than
`reattest_after` after some attestation completed. -/
def RefreshedRecently (policy : ReattestPolicy) (trace : List (Event C B T)) : Prop :=
  ∀ before s i after body stale c, trace = before ++ (s, .acquire i) :: after →
    s.tasks i = .waiting body (.failed stale) → s.slot = some c → c.client.ptr ≠ stale.client.ptr →
    ∃ e ∈ before, (∃ j value, e.2 = .attested j (.ok value)) ∧
      s.now < e.1.now + policy.reattestAfter

theorem slot_stored {now : Nat} {client : C} {trace : List (Event C B T)} {s : State C B T}
    {c : Cached C} (run : Transition.Run (step policy) (Attested.new now client) trace s)
    (current : s.slot = some c) :
    c.client.ptr = 0 ∨
      ∃ e ∈ trace, (∃ j value, e.2 = .attested j (.ok value)) ∧ c.attestedAt = e.1.now := by
  revert current
  apply run.invariant
  · intro current
    cases current
    exact .inl rfl
  · intro trace s a s' earlier ih taken current
    rcases slot_after (step_moves taken) current with same | ⟨_, time, stored⟩
    · rcases ih same with first | ⟨e, member, stored, time⟩
      · exact .inl first
      · exact .inr ⟨e, List.mem_append_left _ member, stored, time⟩
    · exact .inr ⟨(s, a), by simp, stored, time⟩

/-- The early return of `replace` hands out a client as old as its attestation. -/
theorem found_young_iff {now : Nat} {client : C} {before : List (Event C B T)} {s : State C B T}
    {i : Nat} {body : B} {stale c : Cached C}
    (run : Transition.Run (step policy) (Attested.new now client) before s)
    (waits : s.tasks i = .waiting body (.failed stale)) (current : s.slot = some c)
    (other : c.client.ptr ≠ stale.client.ptr) :
    s.now - c.attestedAt < policy.reattestAfter ↔
      ∃ e ∈ before, (∃ j value, e.2 = .attested j (.ok value)) ∧
        s.now < e.1.now + policy.reattestAfter := by
  have coherent := coherent_run run
  have past := coherent.past c current
  constructor
  · intro young
    rcases slot_stored run current with first | ⟨e, member, stored, time⟩
    · -- the first client is the only one there is, so it is the one that failed
      have newest := coherent.newest c current
      have known := (coherent.held i stale (by rw [waits]; rfl)).minted
      omega
    · exact ⟨e, member, stored, by omega⟩
  · intro recently
    obtain ⟨e, member, ⟨j, value, stored⟩, recent⟩ := recently
    have after := (history_run run).stored e member j value stored c current
    omega

/-- The early return of `replace` is the only way to an over-age client. -/
theorem age_bounded_iff (policy : ReattestPolicy) (positive : 0 < policy.reattestAfter) (now : Nat)
    (client : C) (trace : List (Event C B T)) (s : State C B T)
    (run : Transition.Run (step policy) (Attested.new now client) trace s) :
    AgeBounded policy trace ↔ RefreshedRecently policy trace := by
  constructor
  · intro bounded before m i after body stale c whole waits current other
    subst whole
    obtain ⟨m', reached, _, _⟩ := run.split
    apply (found_young_iff reached waits current other).mp
    apply bounded (m, .acquire i) (by simp) c
    simp only [handsOut, waits, replacement, current, Cause.stale, if_pos other]
  · intro recently e member c handed
    obtain ⟨m, a⟩ := e
    cases a with
    | read i => simpa using (Option.filter_eq_some_iff.mp handed).2
    | acquire i =>
      simp only [handsOut] at handed
      split at handed
      · rename_i body cause waits
        obtain ⟨current, arc, stale, other⟩ := replacement_slot handed
        obtain ⟨before, after, whole⟩ := List.append_of_mem member
        subst whole
        obtain ⟨m', reached, _, _⟩ := run.split
        cases cause with
        | aged seen => cases stale
        | failed stale' =>
          cases stale
          apply (found_young_iff reached waits current other).mpr
          exact recently before m i after body stale' c rfl waits current other
      · cases handed
    | attested i outcome =>
      cases outcome with
      | ok value =>
        cases handed
        simpa using positive
      | error e => cases handed
    | _ => cases handed

theorem age_bounded_iff_overlapped :
    AgeBounded default overlapped.1 ↔ RefreshedRecently default overlapped.1 :=
  age_bounded_iff default (by decide) 0 () overlapped.1 overlapped.2 (Transition.Run.execute _ _ _)

/-- A request outlives the client that replaced the one it runs on, and then fails. -/
def outlived : List (Event Unit Unit Unit) × State Unit Unit Unit :=
  Transition.execute (step default) (Attested.new 0 ())
    [.arrive 0 (), .arrive 1 (), .read 0, .read 1, .tick (Duration.fromSecs 30),
      .finish 1 (.error (.http ⟨"timed out"⟩)), .acquire 1, .attested 1 (.ok ()),
      .tick (Duration.fromSecs 3600), .finish 0 (.error (.http ⟨"timed out"⟩)), .acquire 0]

theorem outlived_not_age_bounded :
    Transition.Run (step default) (Attested.new 0 ()) outlived.1 outlived.2 ∧
      ¬ AgeBounded default outlived.1 := by
  refine ⟨Transition.Run.execute _ _ _, ?_⟩
  intro bounded
  have young := bounded outlived.1[10] (List.getElem_mem _) ⟨Duration.fromSecs 30, ⟨1, ()⟩⟩ rfl
  revert young
  decide

end PpqTee.Proxy
