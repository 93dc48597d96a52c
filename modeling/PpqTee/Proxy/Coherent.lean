import PpqTee.Proxy.Attested

/-! The invariant of the cache, and what the past of a run says about its present: which
clients were handed out, and which attestations started. -/

namespace PpqTee.Proxy

variable {C B T : Type}

abbrev Event (C B T : Type) := State C B T × Action C B T

/-- The client that `current` or `replace` returns to `with_reattest` in this step. -/
def handsOut (policy : ReattestPolicy) : Event C B T → Option (Cached C)
  | (s, .read _) =>
    s.slot.filter fun c => s.now - c.attestedAt < policy.reattestAfter
  | (s, .acquire i) =>
    match s.tasks i with
    | .waiting _ cause => replacement s.slot cause.stale
    | _ => none
  | (s, .attested _ (.ok client)) => some ⟨s.now, ⟨s.minted, client⟩⟩
  | _ => none

/-- The cause on which an attestation starts in this step. -/
def starts : Event C B T → Option (Cause C)
  | (s, .acquire i) =>
    match s.tasks i with
    | .waiting _ cause => if (replacement s.slot cause.stale).isNone then some cause else none
    | _ => none
  | _ => none

/-- The client that is cleared from the slot when it starts. -/
def clears (event : Event C B T) : Option (Cached C) := (starts event).bind fun _ => event.1.slot

/-- A cached client that a request may still know of. -/
structure Known (s : State C B T) (c : Cached C) : Prop where
  minted : c.client.ptr < s.minted
  past : c.attestedAt ≤ s.now
  same : ∀ d, s.slot = some d → c.client.ptr = d.client.ptr → c = d

/-- The invariant of the cache: the slot holds the newest client or nothing, it is empty while
the lock is held for writing, and whoever holds the lock is attesting. -/
structure Coherent (policy : ReattestPolicy) (s : State C B T) : Prop where
  newest : ∀ c, s.slot = some c → c.client.ptr + 1 = s.minted
  past : ∀ c, s.slot = some c → c.attestedAt ≤ s.now
  held : ∀ i c, (s.tasks i).held = some c → Known s c
  matured : ∀ i stale, (s.tasks i).failure = some stale →
    stale.attestedAt + policy.minReattestInterval ≤ s.now
  writer : ∀ i, s.writer = some i ↔ (s.tasks i).attests = true
  empty : s.writer ≠ none → s.slot = none

variable {policy : ReattestPolicy}

@[simp] theorem set_now (s : State C B T) (i : Nat) (t : Task C B T) :
    (s.set i t).now = s.now := rfl
@[simp] theorem set_slot (s : State C B T) (i : Nat) (t : Task C B T) :
    (s.set i t).slot = s.slot := rfl
@[simp] theorem set_writer (s : State C B T) (i : Nat) (t : Task C B T) :
    (s.set i t).writer = s.writer := rfl
@[simp] theorem set_minted (s : State C B T) (i : Nat) (t : Task C B T) :
    (s.set i t).minted = s.minted := rfl
@[simp] theorem set_same (s : State C B T) (i : Nat) (t : Task C B T) :
    (s.set i t).tasks i = t := Function.update_self _ _ _
@[simp] theorem set_other (s : State C B T) {i j : Nat} (t : Task C B T) (other : j ≠ i) :
    (s.set i t).tasks j = s.tasks j := Function.update_of_ne other _ _

theorem Coherent.slot {s : State C B T} (coherent : Coherent policy s) {c : Cached C}
    (current : s.slot = some c) : Known s c where
  minted := by
    have := coherent.newest c current
    omega
  past := coherent.past c current
  same d other _ := by
    rw [current] at other
    exact Option.some.inj other

theorem replacement_slot {slot : Option (Cached C)} {stale : Option (Arc C)} {c : Cached C}
    (found : replacement slot stale = some c) :
    slot = some c ∧ ∃ arc, stale = some arc ∧ c.client.ptr ≠ arc.ptr := by
  unfold replacement at found
  split at found
  · split at found <;> cases found
    exact ⟨rfl, _, rfl, ‹_›⟩
  · cases found

theorem held_of_runs {task : Task C B T} {body : B} {cached : Cached C}
    (runs : task.runs = some (body, cached)) : task.held = some cached := by
  cases task with
  | running body' cached' =>
    cases runs
    rfl
  | retrying body' fresh =>
    cases runs
    rfl
  | _ => cases runs

theorem runs_resume (body : B) (cause : Cause C) (cached : Cached C) :
    (Task.resume body cause cached : Task C B T).runs = some (body, cached) := by
  cases cause <;> rfl

/-! What the three record of a step is what the step does. -/

/-- If only request `i` changes, nobody else comes to run an operation. -/
theorem comes_to_run {s s' : State C B T} {i : Nat} {t : Task C B T}
    (tasks : s'.tasks = (s.set i t).tasks) {c : Cached C} :
    (∃ j body, (s.tasks j).runs = none ∧ (s'.tasks j).runs = some (body, c)) ↔
      (s.tasks i).runs = none ∧ ∃ body, t.runs = some (body, c) := by
  rw [tasks]
  apply Iff.intro
  · intro comes
    obtain ⟨j, body, quiet, runs⟩ := comes
    by_cases here : j = i
    · subst here
      rw [set_same] at runs
      exact ⟨quiet, body, runs⟩
    · rw [set_other s t here, quiet] at runs
      cases runs
  · intro comes
    obtain ⟨quiet, body, runs⟩ := comes
    exact ⟨i, body, quiet, by rw [set_same]; exact runs⟩

/-- A client is handed out in a step exactly if the step makes a request run with it. -/
theorem handsOut_iff {s s' : State C B T} {a : Action C B T} (moves : Moves policy s a s')
    {c : Cached C} : handsOut policy (s, a) = some c ↔
      ∃ i body, (s.tasks i).runs = none ∧ (s'.tasks i).runs = some (body, c) := by
  cases moves with
  | tick d =>
    apply Iff.intro
    · intro handed
      cases handed
    · intro comes
      obtain ⟨i, body, quiet, runs⟩ := comes
      rw [show (s.tasks i).runs = some (body, c) from runs] at quiet
      cases quiet
  | @hit i body c' reads _ current young =>
    have found : handsOut policy (s, .read i) = some c' :=
      Option.filter_eq_some_iff.mpr ⟨current, by simpa using young⟩
    rw [comes_to_run rfl, reads, found]
    simp [Task.runs]
  | @miss i body reads _ old =>
    have nothing : handsOut policy (s, .read i) = none := by
      apply Option.filter_eq_none_iff.mpr
      intro d current young
      have aged := old d current
      simp only [decide_eq_true_eq] at young
      omega
    rw [comes_to_run rfl, nothing]
    simp [Task.runs]
  | @found i body cause current waits _ found =>
    rw [comes_to_run rfl, runs_resume, waits]
    simp [handsOut, waits, found, Task.runs]
  | @clear i body cause waits _ unreplaced =>
    rw [comes_to_run (i := i) (t := .attesting body cause) rfl]
    simp [handsOut, waits, unreplaced, Task.runs]
  | @store i body cause client attests =>
    rw [comes_to_run (i := i) (t := .resume body cause ⟨s.now, ⟨s.minted, client⟩⟩) rfl,
      runs_resume, attests]
    simp [handsOut, Task.runs]
  | @fail i body cause e attests =>
    rw [comes_to_run (i := i) (t := .done (.error e)) rfl]
    simp [handsOut, Task.runs]
  | @abandon i body cause attests =>
    rw [comes_to_run (i := i) (t := .cancelled) rfl]
    simp [handsOut, Task.runs]
  | arrive _ | fault _ _ | answer _ _ | conclude _ | drop _ =>
    rw [comes_to_run rfl]
    simp [handsOut, Task.runs]

/-- An attestation starts in a step exactly if its request waited to attest and goes on to. -/
theorem starts_iff {s s' : State C B T} {a : Action C B T} (moves : Moves policy s a s')
    {cause : Cause C} : starts (s, a) = some cause ↔
      ∃ i body, a = .acquire i ∧ s.tasks i = .waiting body cause ∧
        s'.tasks i = .attesting body cause := by
  cases moves with
  | @found i body cause' current waits _ found =>
    apply Iff.intro
    · intro started
      simp [starts, waits, found] at started
    · intro attests
      obtain ⟨j, body', same, _, attests⟩ := attests
      cases same
      rw [set_same] at attests
      cases cause' <;> cases attests
  | @clear i body cause' waits _ unreplaced =>
    have recorded : starts (s, .acquire i) = some cause' := by
      simp [starts, waits, unreplaced]
    rw [recorded]
    apply Iff.intro
    · intro same
      cases same
      exact ⟨i, body, rfl, waits, set_same _ _ _⟩
    · intro attests
      obtain ⟨j, body', same, waits', _⟩ := attests
      cases same
      rw [waits] at waits'
      cases waits'
      rfl
  | _ =>
    apply Iff.intro
    · intro started
      cases started
    · intro attests
      obtain ⟨_, _, same, _⟩ := attests
      cases same

/-- A client is cleared in a step exactly if the step takes it out of the slot and leaves nothing. -/
theorem clears_iff {s s' : State C B T} {a : Action C B T} (moves : Moves policy s a s')
    {c : Cached C} : clears (s, a) = some c ↔ s.slot = some c ∧ s'.slot = none := by
  have recorded : clears (s, a) = some c ↔ (starts (s, a)).isSome = true ∧ s.slot = some c := by
    unfold clears
    cases starts (s, a) <;> simp
  rw [recorded]
  cases moves with
  | @clear i body cause waits _ unreplaced => simp [starts, waits, unreplaced]
  | @found i body cause current waits _ found =>
    have silent : starts (s, .acquire i) = none := by simp [starts, waits, found]
    have present : s.slot = some current := (replacement_slot found).1
    rw [silent]
    simp [present]
  | store attests => simp [starts]
  | _ =>
    apply Iff.intro
    · intro both
      cases both.1
    · intro both
      have gone : s.slot = none := both.2
      rw [both.1] at gone
      cases gone

/-- A request changes its mind, and nothing else happens. -/
theorem Coherent.set {s : State C B T} (coherent : Coherent policy s) (i : Nat) (t : Task C B T)
    (known : ∀ c, t.held = some c → Known s c)
    (matured : ∀ stale, t.failure = some stale →
      stale.attestedAt + policy.minReattestInterval ≤ s.now)
    (calm : t.attests = false) (was : (s.tasks i).attests = false) :
    Coherent policy (s.set i t) where
  newest := coherent.newest
  past := coherent.past
  held j c holds := by
    by_cases here : j = i
    · subst here
      rw [set_same] at holds
      exact ⟨(known c holds).minted, (known c holds).past, (known c holds).same⟩
    · rw [set_other s t here] at holds
      exact ⟨(coherent.held j c holds).minted, (coherent.held j c holds).past,
        (coherent.held j c holds).same⟩
  matured j stale failed := by
    by_cases here : j = i
    · subst here
      rw [set_same] at failed
      exact matured stale failed
    · rw [set_other s t here] at failed
      exact coherent.matured j stale failed
  writer j := by
    by_cases here : j = i
    · subst here
      rw [set_same, calm, set_writer, coherent.writer, was]
    · rw [set_other s t here]
      exact coherent.writer j
  empty := coherent.empty

theorem Coherent.alone {s : State C B T} (coherent : Coherent policy s) {i j : Nat}
    (first : (s.tasks i).attests = true) (second : (s.tasks j).attests = true) : i = j := by
  have same := (coherent.writer i).mpr first
  rw [(coherent.writer j).mpr second] at same
  exact (Option.some.inj same).symm

theorem Coherent.free {s : State C B T} (coherent : Coherent policy s) (unlocked : s.writer = none)
    (i : Nat) : (s.tasks i).attests = false := by
  cases attests : (s.tasks i).attests with
  | false => rfl
  | true =>
    have locked := (coherent.writer i).mpr attests
    rw [unlocked] at locked
    cases locked

theorem Coherent.tick {s : State C B T} (coherent : Coherent policy s) (d : Nat) :
    Coherent policy { s with now := s.now + d } where
  newest := coherent.newest
  past c current := Nat.le_add_right_of_le (coherent.past c current)
  held i c holds :=
    { minted := (coherent.held i c holds).minted
      past := Nat.le_add_right_of_le (coherent.held i c holds).past
      same := (coherent.held i c holds).same }
  matured i stale failed := Nat.le_add_right_of_le (coherent.matured i stale failed)
  writer := coherent.writer
  empty := coherent.empty

theorem Coherent.clear {s : State C B T} (coherent : Coherent policy s) {i : Nat} {body : B}
    {cause : Cause C} (waits : s.tasks i = .waiting body cause) (unlocked : s.writer = none) :
    Coherent policy { s.set i (.attesting body cause) with slot := none, writer := some i } where
  newest c current := by cases current
  past c current := by cases current
  held j c holds := by
    have before : (s.tasks j).held = some c := by
      by_cases here : j = i
      · subst here
        rw [waits]
        simpa [Task.held] using holds
      · simpa [here] using holds
    exact ⟨(coherent.held j c before).minted, (coherent.held j c before).past,
      fun d current => by cases current⟩
  matured j stale failed := by
    by_cases here : j = i
    · subst here
      simp [Task.failure] at failed
    · exact coherent.matured j stale (by simpa [here] using failed)
  writer j := by
    by_cases here : j = i
    · subst here
      simp [Task.attests]
    · have free := coherent.free unlocked j
      simp [here, free, Ne.symm here]
  empty _ := rfl

theorem Coherent.release {s : State C B T} (coherent : Coherent policy s) {i : Nat}
    (attests : (s.tasks i).attests = true) (t : Task C B T) (held : t.held = none)
    (failure : t.failure = none) (calm : t.attests = false) :
    Coherent policy { s.set i t with writer := none } where
  newest := coherent.newest
  past := coherent.past
  held j c holds := by
    by_cases here : j = i
    · subst here
      simp [held] at holds
    · have before := coherent.held j c (by simpa [here] using holds)
      exact ⟨before.minted, before.past, before.same⟩
  matured j stale failed := by
    by_cases here : j = i
    · subst here
      simp [failure] at failed
    · exact coherent.matured j stale (by simpa [here] using failed)
  writer j := by
    by_cases here : j = i
    · subst here
      simp [calm]
    · have others : (s.tasks j).attests ≠ true := fun second =>
        here (coherent.alone second attests)
      simp [here, others]
  empty locked := absurd rfl locked

theorem Coherent.store {s : State C B T} (coherent : Coherent policy s) {i : Nat} {body : B}
    {cause : Cause C} (attests : s.tasks i = .attesting body cause) (client : C) :
    Coherent policy { s.set i (.resume body cause ⟨s.now, ⟨s.minted, client⟩⟩) with
      slot := some ⟨s.now, ⟨s.minted, client⟩⟩, writer := none, minted := s.minted + 1 } where
  newest c current := by
    cases current
    rfl
  past c current := by
    cases current
    exact Nat.le_refl _
  held j c holds := by
    by_cases here : j = i
    · subst here
      have fresh : c = ⟨s.now, ⟨s.minted, client⟩⟩ := by
        cases cause <;> simpa [Task.resume, Task.held, eq_comm] using holds
      subst fresh
      exact ⟨Nat.lt_succ_self _, Nat.le_refl _, fun d current _ => Option.some.inj current⟩
    · have before := coherent.held j c (by simpa [here] using holds)
      refine ⟨Nat.lt_succ_of_lt before.minted, before.past, ?_⟩
      intro d current same
      cases current
      exact absurd same (Nat.ne_of_lt before.minted)
  matured j stale failed := by
    by_cases here : j = i
    · subst here
      cases cause <;> simp [Task.resume, Task.failure] at failed
    · exact coherent.matured j stale (by simpa [here] using failed)
  writer j := by
    by_cases here : j = i
    · subst here
      cases cause <;> simp [Task.resume, Task.attests]
    · have others : (s.tasks j).attests ≠ true := fun second =>
        here (coherent.alone second (by rw [attests]; rfl))
      simp [here, others]
  empty locked := absurd rfl locked

theorem Coherent.step {s s' : State C B T} {a : Action C B T} (coherent : Coherent policy s)
    (moves : Moves policy s a s') : Coherent policy s' := by
  cases moves with
  | tick d => exact coherent.tick d
  | @arrive i body waits =>
    exact coherent.set i _ (fun c holds => by cases holds) (fun c failed => by cases failed) rfl
      (by rw [waits]; rfl)
  | @hit i body c reads _ current _ =>
    refine coherent.set i _ ?_ (fun c failed => by cases failed) rfl (by rw [reads]; rfl)
    intro d holds
    cases holds
    exact coherent.slot current
  | @miss i body reads _ _ =>
    refine coherent.set i _ ?_ (fun c failed => by cases failed) rfl (by rw [reads]; rfl)
    intro d holds
    exact coherent.slot holds
  | @found i body cause current waits _ found =>
    refine coherent.set i _ ?_ ?_ ?_ (by rw [waits]; rfl)
    · intro d holds
      have same : d = current := by
        cases cause <;> simpa [Task.resume, Task.held, eq_comm] using holds
      subst same
      exact coherent.slot (replacement_slot found).1
    · intro stale failed
      cases cause <;> cases failed
    · cases cause <;> rfl
  | clear waits unlocked _ => exact coherent.clear waits unlocked
  | store attests => exact coherent.store attests _
  | @fail i body cause e attests =>
    exact coherent.release (by rw [attests]; rfl) _ rfl rfl rfl
  | @fault i body cached err runs fails =>
    refine coherent.set i _ ?_ ?_ rfl (by rw [runs]; rfl)
    · intro d holds
      cases holds
      exact coherent.held i cached (by rw [runs]; rfl)
    · intro stale failed
      cases failed
      have past := (coherent.held i cached (by rw [runs]; rfl)).past
      simp [retries] at fails
      omega
  | @answer i body cached outcome runs _ =>
    exact coherent.set i _ (fun c holds => by cases holds) (fun c failed => by cases failed) rfl
      (by rw [runs]; rfl)
  | @conclude i body fresh outcome runs =>
    exact coherent.set i _ (fun c holds => by cases holds) (fun c failed => by cases failed) rfl
      (by rw [runs]; rfl)
  | @drop i calm =>
    exact coherent.set i _ (fun c holds => by cases holds) (fun c failed => by cases failed) rfl
      calm
  | @abandon i body cause attests =>
    exact coherent.release (by rw [attests]; rfl) _ rfl rfl rfl

theorem coherent_new (policy : ReattestPolicy) (now : Nat) (client : C) :
    Coherent policy (Attested.new now client : State C B T) where
  newest c current := by
    cases current
    rfl
  past c current := by
    cases current
    exact Nat.le_refl _
  held i c holds := by cases holds
  matured i stale failed := by cases failed
  writer i := by
    constructor
    · intro locked
      cases locked
    · intro attests
      cases attests
  empty locked := absurd rfl locked

theorem coherent_run {now : Nat} {client : C} {trace : List (Event C B T)} {s : State C B T}
    (run : Transition.Run (step policy) (Attested.new now client) trace s) : Coherent policy s := by
  apply run.invariant
  · exact coherent_new policy now client
  · intro trace s a s' _ coherent taken
    exact coherent.step (step_moves taken)

/-! What the past of a run says about its present. -/

theorem now_le {s s' : State C B T} {a : Action C B T} (moves : Moves policy s a s') :
    s.now ≤ s'.now := by
  cases moves
  case tick d => exact Nat.le_add_right _ _
  all_goals exact Nat.le_refl _

theorem minted_le {s s' : State C B T} {a : Action C B T} (moves : Moves policy s a s') :
    s.minted ≤ s'.minted := by
  cases moves
  case store => exact Nat.le_succ _
  all_goals exact Nat.le_refl _

/-- What is in the slot was there before, or has just been attested. -/
theorem slot_after {s s' : State C B T} {a : Action C B T} (moves : Moves policy s a s')
    {c : Cached C} (current : s'.slot = some c) :
    s.slot = some c ∨ (c.client.ptr = s.minted ∧ c.attestedAt = s.now ∧
      ∃ i client, a = .attested i (.ok client)) := by
  cases moves
  case clear => cases current
  case store i body cause client attests =>
    cases current
    exact .inr ⟨rfl, rfl, i, client, rfl⟩
  all_goals exact .inl current

/-- A client that is handed out is in the slot, or has just been attested. -/
theorem handsOut_cases {s : State C B T} {a : Action C B T} {c : Cached C}
    (handed : handsOut policy (s, a) = some c) :
    s.slot = some c ∨ (c.client.ptr = s.minted ∧ c.attestedAt = s.now ∧
      ∃ i client, a = .attested i (.ok client)) := by
  cases a with
  | read i => exact .inl (Option.filter_eq_some_iff.mp handed).1
  | acquire i =>
    simp only [handsOut] at handed
    split at handed
    · exact .inl (replacement_slot handed).1
    · cases handed
  | attested i outcome =>
    cases outcome with
    | ok client =>
      cases handed
      exact .inr ⟨rfl, rfl, i, client, rfl⟩
    | error e => cases handed
  | tick d => cases handed
  | arrive i body => cases handed
  | finish i outcome => cases handed
  | cancel i => cases handed

theorem handsOut_minted {s s' : State C B T} {a : Action C B T} {c : Cached C}
    (coherent : Coherent policy s) (moves : Moves policy s a s')
    (handed : handsOut policy (s, a) = some c) : c.client.ptr < s'.minted := by
  obtain ⟨i, body, _, runs⟩ := (handsOut_iff moves).mp handed
  exact ((coherent.step moves).held i c (held_of_runs runs)).minted

theorem starts_acquire {s : State C B T} {a : Action C B T} {cause : Cause C}
    (started : starts (s, a) = some cause) : ∃ i body, a = .acquire i ∧
      s.tasks i = .waiting body cause ∧ replacement s.slot cause.stale = none := by
  cases a with
  | acquire i =>
    simp only [starts] at started
    split at started
    · rename_i body cause waits
      split at started <;> cases started
      exact ⟨i, body, rfl, waits, Option.isNone_iff_eq_none.mp ‹_›⟩
    · cases started
  | _ => cases started

/-- Whoever starts an attestation holds the lock, and leaves the slot empty. -/
theorem locked_of_starts {s s' : State C B T} {a : Action C B T} {cause : Cause C}
    (coherent : Coherent policy s) (moves : Moves policy s a s')
    (started : starts (s, a) = some cause) : ∃ i, s'.writer = some i ∧ s'.slot = none := by
  obtain ⟨i, body, _, _, attests⟩ := (starts_iff moves).mp started
  have after := coherent.step moves
  have locked : s'.writer = some i := (after.writer i).mpr (by rw [attests]; rfl)
  refine ⟨i, locked, after.empty ?_⟩
  rw [locked]
  exact Option.some_ne_none i

structure History (policy : ReattestPolicy) (trace : List (Event C B T)) (s : State C B T) :
    Prop where
  now : ∀ e ∈ trace, e.1.now ≤ s.now
  minted : ∀ e ∈ trace, e.1.minted ≤ s.minted
  handed : ∀ e ∈ trace, ∀ c, handsOut policy e = some c → c.client.ptr < s.minted
  started : ∀ e ∈ trace, ∀ cause, starts e = some cause →
    ∀ c, s.slot = some c → e.1.minted ≤ c.client.ptr ∧ e.1.now ≤ c.attestedAt
  stored : ∀ e ∈ trace, ∀ i client, e.2 = .attested i (.ok client) →
    ∀ c, s.slot = some c → e.1.now ≤ c.attestedAt

theorem history_run {now : Nat} {client : C} {trace : List (Event C B T)} {s : State C B T}
    (run : Transition.Run (step policy) (Attested.new now client) trace s) :
    History policy trace s := by
  apply run.invariant
  · constructor <;> simp
  · intro trace s a s' earlier history taken
    have moves := step_moves taken
    have coherent := coherent_run earlier
    have later := now_le moves
    have grown := minted_le moves
    constructor
    · intro e member
      rcases List.mem_append.mp member with before | last
      · exact Nat.le_trans (history.now e before) later
      · rw [List.mem_singleton.mp last]
        exact later
    · intro e member
      rcases List.mem_append.mp member with before | last
      · exact Nat.le_trans (history.minted e before) grown
      · rw [List.mem_singleton.mp last]
        exact grown
    · intro e member c handed
      rcases List.mem_append.mp member with before | last
      · exact Nat.lt_of_lt_of_le (history.handed e before c handed) grown
      · rw [List.mem_singleton.mp last] at handed
        exact handsOut_minted coherent moves handed
    · intro e member cause started c current
      rcases List.mem_append.mp member with before | last
      · rcases slot_after moves current with same | ⟨number, time, -⟩
        · exact history.started e before cause started c same
        · rw [number, time]
          exact ⟨history.minted e before, history.now e before⟩
      · rw [List.mem_singleton.mp last] at started
        obtain ⟨_, _, empty⟩ := locked_of_starts coherent moves started
        rw [empty] at current
        cases current
    · intro e member i client stored c current
      rcases List.mem_append.mp member with before | last
      · rcases slot_after moves current with same | ⟨-, time, -⟩
        · exact history.stored e before i client stored c same
        · rw [time]
          exact history.now e before
      · rw [List.mem_singleton.mp last] at stored ⊢
        simp only at stored
        subst stored
        cases moves
        cases current
        exact Nat.le_refl _

end PpqTee.Proxy
