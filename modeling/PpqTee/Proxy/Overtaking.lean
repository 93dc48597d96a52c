import PpqTee.Proxy.Refresh

/-! Ageing out: whether a client is thrown away before its time, and whether the requests that
find it aged out share one attestation. -/

namespace PpqTee.Proxy

variable {C B T : Type} {policy : ReattestPolicy}

/-- No attestation fails or is dropped half-way. -/
def Succeeds : Event C B T → Prop
  | (_, .attested _ (.error _)) => False
  | (s, .cancel i) => (s.tasks i).attests = false
  | _ => True

instance : DecidablePred (Succeeds : Event C B T → Prop) := fun
  | (_, .attested _ (.error _)) => inferInstanceAs (Decidable False)
  | (s, .cancel i) => inferInstanceAs (Decidable ((s.tasks i).attests = false))
  | (_, .tick _) | (_, .arrive _ _) | (_, .read _) | (_, .acquire _) | (_, .attested _ (.ok _))
  | (_, .finish _ _) => inferInstanceAs (Decidable True)

/-- A client that is cleared has aged out, or is the one whose operation failed for the request
that clears it. -/
def FreshKept (policy : ReattestPolicy) (trace : List (Event C B T)) : Prop :=
  ∀ e ∈ trace, ∀ c, clears e = some c → policy.reattestAfter ≤ e.1.now - c.attestedAt ∨
    ∃ stale, starts e = some (.failed stale) ∧ stale.client.ptr = c.client.ptr

/-- Of the requests that found one and the same client aged out and got the lock, exactly one
attests: another could only after the new client has had the time to age out in its turn. -/
structure SingleFlight (policy : ReattestPolicy) (trace : List (Event C B T)) : Prop where
  some_attests : ∀ s i body c, (s, .acquire i) ∈ trace →
    s.tasks i = .waiting body (.aged (some c)) → ∃ e ∈ trace, starts e = some (.aged (some c))
  one_attests : trace.Pairwise fun e later => ∀ c, starts e = some (.aged (some c)) →
    starts later = some (.aged (some c)) → e.1.now + policy.reattestAfter ≤ later.1.now

/-- Between reading the cache and taking the write lock, no request that found the client aged
out was overtaken by an attestation that completed less than `reattest_after` before. -/
def NotOvertaken (policy : ReattestPolicy) (trace : List (Event C B T)) : Prop :=
  ∀ first m i between s after body seen,
    trace = first ++ (m, .read i) :: (between ++ (s, .acquire i) :: after) →
    s.tasks i = .waiting body (.aged seen) →
    ∀ e ∈ between, ∀ j value, e.2 = .attested j (.ok value) →
      e.1.now + policy.reattestAfter ≤ s.now

theorem aged_before {s s' : State C B T} {a : Action C B T} (moves : Moves policy s a s') {i : Nat}
    {body : B} {seen : Option (Cached C)} (waits : s'.tasks i = .waiting body (.aged seen)) :
    s.tasks i = .waiting body (.aged seen) ∨ (a = .read i ∧ s.slot = seen ∧ s'.slot = seen ∧
      ∀ c, seen = some c → policy.reattestAfter ≤ s.now - c.attestedAt) := by
  cases moves with
  | tick d => exact .inl waits
  | @miss j _ _ _ old =>
    by_cases here : i = j
    · subst here
      rw [set_same] at waits
      cases waits
      exact .inr ⟨rfl, rfl, rfl, old⟩
    · exact .inl (by simpa [here] using waits)
  | @found j _ cause _ _ _ _ =>
    by_cases here : i = j
    · subst here
      cases cause <;> simp [Task.resume] at waits
    · exact .inl (by simpa [here] using waits)
  | @store j _ cause _ _ =>
    by_cases here : i = j
    · subst here
      cases cause <;> simp [Task.resume] at waits
    · exact .inl (by simpa [here] using waits)
  | @arrive j _ _ | @hit j _ _ _ _ _ _ | @clear j _ _ _ _ _ | @fail j _ _ _ _ | @fault j _ _ _ _ _
  | @answer j _ _ _ _ _ | @conclude j _ _ _ _ | @drop j _ | @abandon j _ _ _ =>
    by_cases here : i = j
    · subst here
      simp at waits
    · exact .inl (by simpa [here] using waits)

/-- What a request that waits for an aged-out client saw, and what has changed since. -/
theorem aged_history {now : Nat} {client : C} {trace : List (Event C B T)} {s : State C B T}
    (run : Transition.Run (step policy) (Attested.new now client) trace s) {i : Nat} {body : B}
    {seen : Option (Cached C)} (waits : s.tasks i = .waiting body (.aged seen)) :
    ∃ first m between, trace = first ++ (m, .read i) :: between ∧ m.slot = seen ∧
      (∀ c, seen = some c → policy.reattestAfter ≤ m.now - c.attestedAt) ∧
      ∀ c, s.slot = some c → seen = some c ∨
        ∃ e ∈ between, (∃ j value, e.2 = .attested j (.ok value)) ∧ c.attestedAt = e.1.now := by
  induction run with
  | start => cases waits
  | @next trace s s' a earlier taken ih =>
    have moves := step_moves taken
    rcases aged_before moves waits with waited | ⟨reads, saw, kept, old⟩
    · obtain ⟨first, m, between, whole, saw, old, since⟩ := ih waited
      refine ⟨first, m, between ++ [(s, a)], by rw [whole]; simp, saw, old, ?_⟩
      intro c current
      rcases slot_after moves current with same | ⟨_, time, stored⟩
      · rcases since c same with was | ⟨e, member, stored, time⟩
        · exact .inl was
        · exact .inr ⟨e, List.mem_append_left _ member, stored, time⟩
      · exact .inr ⟨(s, a), by simp, stored, time⟩
    · subst reads
      refine ⟨trace, s, [], rfl, saw, old, ?_⟩
      intro c current
      rw [kept] at current
      exact .inl current

/-- In a run without failures the slot is empty only while an attestation is under way. -/
theorem slot_of_unlocked {now : Nat} {client : C} {trace : List (Event C B T)} {s : State C B T}
    (run : Transition.Run (step policy) (Attested.new now client) trace s)
    (succeeds : ∀ e ∈ trace, Succeeds e) : s.writer.isSome = true ∨ s.slot.isSome = true := by
  induction run with
  | start => exact .inr rfl
  | @next trace s s' a earlier taken ih =>
    have before := ih fun e member => succeeds e (List.mem_append_left _ member)
    have last := succeeds (s, a) (by simp)
    have moves := step_moves taken
    cases moves with
    | clear => exact .inl rfl
    | store => exact .inr rfl
    | fail => exact last.elim
    | @abandon i _ _ attests =>
      simp only [Succeeds, attests, Task.attests] at last
      cases last
    | _ => exact before

theorem now_le_run {m s : State C B T} {between : List (Event C B T)}
    (run : Transition.Run (step policy) m between s) : m.now ≤ s.now := by
  induction run with
  | start => exact Nat.le_refl _
  | next _ taken ih => exact Nat.le_trans ih (now_le (step_moves taken))

/-- In a run without failures, a lock that was taken for attesting is released by storing the
new client. -/
theorem stored_since {m s : State C B T} {j : Nat} {between : List (Event C B T)}
    (run : Transition.Run (step policy) m between s) (locked : m.writer = some j)
    (succeeds : ∀ e ∈ between, Succeeds e) :
    s.writer = some j ∨ ∃ e ∈ between, (∃ k value, e.2 = .attested k (.ok value)) ∧
      m.now ≤ e.1.now := by
  induction run with
  | start => exact .inl locked
  | @next between s s' a earlier taken ih =>
    have last := succeeds (s, a) (by simp)
    rcases ih fun e member => succeeds e (List.mem_append_left _ member) with
      holds | ⟨e, member, stored, later⟩
    · have moves := step_moves taken
      cases moves with
      | clear _ unlocked _ =>
        rw [unlocked] at holds
        cases holds
      | @store k _ _ value _ =>
        exact .inr ⟨(s, .attested k (.ok value)), by simp, ⟨k, value, rfl⟩, now_le_run earlier⟩
      | fail => exact last.elim
      | @abandon i _ _ attests =>
        simp only [Succeeds, attests, Task.attests] at last
        cases last
      | _ => exact .inl holds
    · exact .inr ⟨e, List.mem_append_left _ member, stored, later⟩

theorem fresh_kept_of_not_overtaken {now : Nat} {client : C} {trace : List (Event C B T)}
    {s : State C B T} (run : Transition.Run (step policy) (Attested.new now client) trace s)
    (overtaken : NotOvertaken policy trace) : FreshKept policy trace := by
  intro e member c cleared
  obtain ⟨m, a⟩ := e
  obtain ⟨cause, started, current⟩ := Option.bind_eq_some_iff.mp cleared
  obtain ⟨i, body, acquires, waits, unreplaced⟩ := starts_acquire started
  subst acquires
  obtain ⟨before, after, whole⟩ := List.append_of_mem member
  subst whole
  obtain ⟨_, reached, _, _⟩ := run.split
  cases cause with
  | failed stale =>
    refine .inr ⟨stale, started, ?_⟩
    rw [show m.slot = some c from current] at unreplaced
    simpa [replacement, Cause.stale, eq_comm] using unreplaced
  | aged seen =>
    obtain ⟨first, r, between, split, saw, old, since⟩ := aged_history reached waits
    subst split
    rcases since c current with was | ⟨e, inside, ⟨j, value, stored⟩, time⟩
    · have later := (history_run reached).now (r, .read i) (by simp)
      have aged := old c was
      exact .inl (by simp only at later ⊢; omega)
    · have spaced := overtaken first r i between m after body seen (by simp) waits e inside j value
        stored
      exact .inl (by simp only; omega)

/-- A client that a started attestation was to replace is not in the slot any more. -/
theorem not_current_of_started {now : Nat} {client : C} {trace : List (Event C B T)}
    {s : State C B T} (run : Transition.Run (step policy) (Attested.new now client) trace s)
    {e : Event C B T} (member : e ∈ trace) {cause : Cause C} (started : starts e = some cause)
    {c : Cached C} (known : cause.client = some c) : s.slot ≠ some c := by
  intro current
  have newer := ((history_run run).started e member cause started c current).1
  obtain ⟨m, a⟩ := e
  obtain ⟨i, body, _, waits, _⟩ := starts_acquire started
  obtain ⟨_, _, reached, _⟩ := run.of_mem member
  have older := ((coherent_run reached).held i c (by rw [waits]; exact known)).minted
  exact Nat.lt_irrefl _ (Nat.lt_of_le_of_lt newer older)

/-- `replace(None)` does not look at what is in the slot. -/
theorem starts_of_aged {s : State C B T} {i : Nat} {body : B} {seen : Option (Cached C)}
    (waits : s.tasks i = .waiting body (.aged seen)) :
    starts (s, .acquire i) = some (.aged seen) := by
  simp [starts, waits, replacement, Cause.stale]

theorem unlocked_of_acquire {s s' : State C B T} {i : Nat}
    (moves : Moves policy s (.acquire i) s') : s.writer = none := by
  cases moves with
  | found _ unlocked _ => exact unlocked
  | clear _ unlocked _ => exact unlocked

theorem single_flight_of_not_overtaken {now : Nat} {client : C} {trace : List (Event C B T)}
    {s : State C B T} (run : Transition.Run (step policy) (Attested.new now client) trace s)
    (succeeds : ∀ e ∈ trace, Succeeds e) (overtaken : NotOvertaken policy trace) :
    SingleFlight policy trace := by
  constructor
  · intro m i body c member waits
    exact ⟨(m, .acquire i), member, starts_of_aged waits⟩
  apply run.pairwise
  intro before m a after whole reached e member c first second
  obtain ⟨i, body, acquires, waits, _⟩ := starts_acquire second
  subst acquires
  subst whole
  obtain ⟨m', _, taken, _⟩ := run.split
  have unlocked := unlocked_of_acquire (step_moves taken)
  obtain ⟨front, r, between, split, saw, _, _⟩ := aged_history reached waits
  subst split
  obtain ⟨r', read, _, _⟩ := reached.split
  rcases List.mem_append.mp member with inFront | inRest
  · -- an attestation for `c` had started already when the later request read `c`
    exact absurd saw (not_current_of_started read inFront first rfl)
  rcases List.mem_cons.mp inRest with here | inside
  · rw [here] at first
    cases first
  -- the attestation that `e` starts is over when `m` gets the lock, so it overtook `m`
  obtain ⟨left, right, split⟩ := List.append_of_mem inside
  subst split
  rw [← List.cons_append, ← List.append_assoc] at reached
  obtain ⟨e', before, started, rest⟩ := reached.split
  obtain ⟨j, locked, _⟩ := locked_of_starts (coherent_run before) (step_moves started) first
  have kept : ∀ x ∈ right, Succeeds x := fun x isRight => succeeds x (by simp [isRight])
  rcases stored_since rest locked kept with still | ⟨x, isRight, ⟨k, value, stored⟩, later⟩
  · rw [unlocked] at still
    cases still
  · have spaced := overtaken front r i (left ++ e :: right) m after body (some c) (by simp) waits
      x (by simp [isRight]) k value stored
    have earlier := now_le (step_moves started)
    calc e.1.now + policy.reattestAfter ≤ x.1.now + policy.reattestAfter :=
          Nat.add_le_add_right (Nat.le_trans earlier later) _
      _ ≤ m.now := spaced

/-- A request that was overtaken clears the client that overtook it. -/
theorem not_overtaken_of_fresh_kept {now : Nat} {client : C} {trace : List (Event C B T)}
    {s : State C B T} (run : Transition.Run (step policy) (Attested.new now client) trace s)
    (succeeds : ∀ e ∈ trace, Succeeds e) (kept : FreshKept policy trace) :
    NotOvertaken policy trace := by
  intro first m i between n after body seen whole waits e inside j value stored
  rw [← List.cons_append, ← List.append_assoc] at whole
  subst whole
  obtain ⟨n', reached, taken, _⟩ := run.split
  have unlocked := unlocked_of_acquire (step_moves taken)
  have fine : ∀ x ∈ first ++ (m, .read i) :: between, Succeeds x :=
    fun x member => succeeds x (List.mem_append_left _ member)
  rcases slot_of_unlocked reached fine with locked | full
  · rw [unlocked] at locked
    cases locked
  obtain ⟨c, current⟩ := Option.isSome_iff_exists.mp full
  have history := history_run reached
  have member : e ∈ first ++ (m, .read i) :: between := by simp [inside]
  have newer := history.stored e member j value stored c current
  have past := history.now e member
  have started := starts_of_aged waits
  obtain ⟨_, _, empty⟩ := locked_of_starts (coherent_run reached) (step_moves taken) started
  have cleared : clears (n, .acquire i) = some c :=
    (clears_iff (step_moves taken)).mpr ⟨current, empty⟩
  rcases kept (n, .acquire i) (by simp) c cleared with old | ⟨stale, failed, _⟩
  · have known := (coherent_run reached).past c current
    simp only at old
    omega
  · rw [started] at failed
    cases failed

/-- A fresh client is never thrown away, and requests that found one client aged out attest
once between them, exactly if no such request is overtaken by a refresh. -/
theorem fresh_kept_iff (policy : ReattestPolicy) (now : Nat) (client : C)
    (trace : List (Event C B T)) (s : State C B T)
    (run : Transition.Run (step policy) (Attested.new now client) trace s)
    (succeeds : ∀ e ∈ trace, Succeeds e) :
    FreshKept policy trace ∧ SingleFlight policy trace ↔ NotOvertaken policy trace := by
  constructor
  · intro both
    obtain ⟨kept, _⟩ := both
    exact not_overtaken_of_fresh_kept run succeeds kept
  · intro overtaken
    exact ⟨fresh_kept_of_not_overtaken run overtaken,
      single_flight_of_not_overtaken run succeeds overtaken⟩

theorem fresh_kept_iff_overlapped :
    FreshKept default overlapped.1 ∧ SingleFlight default overlapped.1 ↔
      NotOvertaken default overlapped.1 :=
  fresh_kept_iff default 0 () overlapped.1 overlapped.2 (Transition.Run.execute _ _ _) (by decide)

/-- Two requests find the first client aged out, and one replaces it while the other waits. -/
def overtaken : List (Event Unit Unit Unit) × State Unit Unit Unit :=
  Transition.execute (step default) (Attested.new 0 ())
    [.tick (Duration.fromSecs 3600), .arrive 0 (), .arrive 1 (), .read 0, .read 1, .acquire 0,
      .attested 0 (.ok ()), .acquire 1, .attested 1 (.ok ())]

theorem overtaken_not_fresh_kept :
    Transition.Run (step default) (Attested.new 0 ()) overtaken.1 overtaken.2 ∧
      (∀ e ∈ overtaken.1, Succeeds e) ∧ ¬ FreshKept default overtaken.1 ∧
      ¬ SingleFlight default overtaken.1 := by
  refine ⟨Transition.Run.execute _ _ _, by decide, ?_, ?_⟩
  · intro kept
    rcases kept overtaken.1[7] (List.getElem_mem _) ⟨Duration.fromSecs 3600, ⟨1, ()⟩⟩ rfl with
      old | ⟨stale, failed, _⟩
    · revert old
      decide
    · cases failed
  · intro flight
    have spaced := List.pairwise_iff_getElem.mp flight.one_attests 5 7 (by decide) (by decide)
      (by decide) ⟨0, ⟨0, ()⟩⟩ rfl rfl
    revert spaced
    decide

end PpqTee.Proxy
