import PpqTee.Lib.Infinite
import PpqTee.Proxy.Retry

/-! Every request comes to an end: it has only so many steps to take, something can always be done
about the one it is at, and under a fair lock it is done. -/

namespace PpqTee.Proxy

variable {C B T : Type}

/-- The steps that a request has left at most. -/
def Task.work : Task C B T → Nat
  | .idle => 8
  | .reading _ => 7
  | .waiting _ (.aged _) => 6
  | .attesting _ (.aged _) => 5
  | .running _ _ => 4
  | .waiting _ (.failed _) => 3
  | .attesting _ (.failed _) => 2
  | .retrying _ _ => 1
  | .done _ | .cancelled => 0

/-- The attestations that a request may still start. -/
def Task.attestations : Task C B T → Nat
  | .idle | .reading _ | .waiting _ (.aged _) => 2
  | .attesting _ (.aged _) | .running _ _ | .waiting _ (.failed _) => 1
  | .attesting _ (.failed _) | .retrying _ _ | .done _ | .cancelled => 0

/-- A step of request `i`. -/
def ofRequest (i : Nat) (event : Event C B T) : Bool := event.2.request == some i

/-- Request `i` starts an attestation in this step. -/
def attestsFor (i : Nat) (event : Event C B T) : Bool :=
  event.2.request == some i && (starts event).isSome

variable {policy : ReattestPolicy} {i : Nat} {s s' : State C B T} {a : Action C B T}
  {trace : List (Event C B T)}

theorem work_pos (busy : (s.tasks i).settled = false) : 0 < (s.tasks i).work := by
  cases held : s.tasks i with
  | done result | cancelled =>
    rw [held] at busy
    cases busy
  | waiting body cause | attesting body cause => cases cause <;> simp [Task.work]
  | _ => simp [Task.work]

theorem unsettled_of_step (taken : step policy s a = some s') (own : a.request = some i) :
    (s.tasks i).settled = false := by
  cases settled : (s.tasks i).settled with
  | false => rfl
  | true =>
    rw [step_settled settled own] at taken
    cases taken

/-- Each step of its own brings a request nearer to its end. -/
theorem work_lt (taken : step policy s a = some s') (own : a.request = some i) :
    (s'.tasks i).work < (s.tasks i).work := by
  have busy := work_pos (unsettled_of_step taken own)
  cases step_moves taken with
  | tick d => cases own
  | arrive idle =>
    cases own
    rw [set_same, idle]
    simp [Task.work]
  | hit reads | miss reads =>
    cases own
    rw [set_same, reads]
    simp [Task.work]
  | @found j body cause current waits _ found =>
    cases own
    rw [set_same, waits]
    cases cause <;> simp [Task.work, Task.resume]
  | @clear j body cause waits =>
    cases own
    simp only [set_same, waits]
    cases cause <;> simp [Task.work]
  | @store j body cause client attests =>
    cases own
    simp only [set_same, attests]
    cases cause <;> simp [Task.work, Task.resume]
  | @fault j body cached err runs =>
    cases own
    rw [set_same, runs]
    simp [Task.work]
  | fail _ | answer _ _ | conclude _ | drop _ | abandon _ =>
    cases own
    simpa [Task.work] using busy

theorem work_uses (taken : step policy s a = some s') :
    (s'.tasks i).work + (if ofRequest i (s, a) then 1 else 0) ≤ (s.tasks i).work := by
  by_cases own : a.request = some i
  · have less := work_lt taken own
    simp [ofRequest, own]
    omega
  · rw [tasks_other (step_moves taken) own]
    simp [ofRequest, own]

theorem attestations_use (taken : step policy s a = some s') :
    (s'.tasks i).attestations + (if attestsFor i (s, a) then 1 else 0) ≤
      (s.tasks i).attestations := by
  by_cases own : a.request = some i
  · cases step_moves taken with
    | tick d => cases own
    | arrive before | hit before | miss before | fault before | answer before | conclude before
    | fail before | abandon before =>
      cases own
      simp [attestsFor, starts, Task.attestations, before]
    | @found j body cause current waits _ found =>
      cases own
      cases cause <;> simp [attestsFor, starts, Task.attestations, Task.resume, waits, found]
    | @clear j body cause waits _ none =>
      cases own
      cases cause <;> simp [attestsFor, Action.request, starts, Task.attestations, waits, none]
    | @store j body cause client before =>
      cases own
      cases cause <;> simp [attestsFor, starts, Task.attestations, Task.resume, before]
    | drop _ =>
      cases own
      simp [attestsFor, starts, Task.attestations]
  · rw [tasks_other (step_moves taken) own]
    simp [attestsFor, own]

/-! Something can always be done. -/

/-- The request can take its next step: with the lock, whenever it likes; on the outcome of what it
has begun, whatever that is. -/
def Proceeds (policy : ReattestPolicy) (s : State C B T) (i : Nat) : Prop :=
  (step policy s (.read i)).isSome ∨ (step policy s (.acquire i)).isSome ∨
    (∀ outcome, (step policy s (.attested i outcome)).isSome) ∨
    ∀ outcome, (step policy s (.finish i outcome)).isSome

/-- The lock is free for a request that waits for it. -/
def CanLock (policy : ReattestPolicy) (s : State C B T) (i : Nat) : Prop :=
  (step policy s (.read i)).isSome ∨ (step policy s (.acquire i)).isSome

/-- It waits for nothing but the lock. -/
def Task.queues : Task C B T → Bool
  | .reading _ | .waiting _ _ => true
  | _ => false

/-- It waits for an attestation or an operation to end. -/
def Task.awaits (task : Task C B T) : Bool := task.attests || task.runs.isSome

theorem canLock_of_free (policy : ReattestPolicy) (unlocked : s.writer = none)
    (queues : (s.tasks i).queues = true) : CanLock policy s i := by
  cases held : s.tasks i with
  | reading body =>
    left
    simp only [step, held, unlocked]
    split
    · split <;> rfl
    · rfl
  | waiting body cause =>
    right
    simp only [step, held, unlocked]
    split <;> rfl
  | _ =>
    rw [held] at queues
    cases queues

theorem arrived_of_canLock (can : CanLock policy s i) : (s.tasks i).body.isSome = true := by
  cases held : s.tasks i with
  | idle | done result | cancelled => simp [CanLock, step, held] at can
  | _ => rfl

theorem proceeds_of_awaits (awaits : (s.tasks i).awaits = true) : Proceeds policy s i := by
  right
  right
  cases held : s.tasks i with
  | attesting body cause =>
    left
    intro outcome
    simp only [step, held]
    cases outcome <;> rfl
  | running body cached =>
    right
    intro outcome
    simp only [step, held]
    cases outcome with
    | ok v => rfl
    | error e =>
      simp only
      split <;> rfl
  | retrying body fresh =>
    right
    intro outcome
    simp only [step, held]
    rfl
  | _ =>
    rw [held] at awaits
    cases awaits

theorem queues_or_awaits (arrived : (s.tasks i).body.isSome = true) :
    (s.tasks i).queues = true ∨ (s.tasks i).awaits = true := by
  cases held : s.tasks i with
  | idle | done result | cancelled =>
    rw [held] at arrived
    cases arrived
  | reading body | waiting body cause => exact .inl rfl
  | _ => exact .inr rfl

section

variable {now : Nat} {client : C}

/-- No request takes more than eight steps, of which no more than two start attestations; and in
whatever state the others leave it, it can take its next one, or waits for the lock that another
request holds while it attests, and that ends with any outcome. -/
theorem never_stuck (policy : ReattestPolicy) (now : Nat) (client : C)
    (trace : List (Event C B T)) (s : State C B T)
    (run : Transition.Run (step policy) (Attested.new now client) trace s) (i : Nat) :
    trace.countP (ofRequest i) + (s.tasks i).work ≤ 8 ∧
    trace.countP (attestsFor i) + (s.tasks i).attestations ≤ 2 ∧
    ((s.tasks i).body.isSome → Proceeds policy s i ∨
      ∃ j, j ≠ i ∧ s.writer = some j ∧ ∀ outcome, (step policy s (.attested j outcome)).isSome) := by
  have coherent := coherent_run run
  refine ⟨?_, ?_, ?_⟩
  · exact run.countP_le (fun s => (s.tasks i).work) (ofRequest i) fun s a s' taken => work_uses taken
  · exact run.countP_le (fun s => (s.tasks i).attestations) (attestsFor i)
      fun s a s' taken => attestations_use taken
  · intro arrived
    rcases queues_or_awaits arrived with queues | awaits
    · cases locked : s.writer with
      | none =>
        rcases canLock_of_free policy locked queues with reads | acquires
        · exact .inl (.inl reads)
        · exact .inl (.inr (.inl acquires))
      | some j =>
        right
        have attests := (coherent.writer j).mp locked
        refine ⟨j, ?_, rfl, ?_⟩
        · intro same
          rw [same] at attests
          cases held : s.tasks i <;> simp [held, Task.queues, Task.attests] at queues attests
        · cases held : s.tasks j with
          | attesting body cause =>
            intro outcome
            simp only [step, held]
            cases outcome <;> rfl
          | _ => simp [held, Task.attests] at attests
    · exact .inl (proceeds_of_awaits awaits)

/-- The request that is sent twice. -/
theorem never_stuck_resent : resent.1.countP (ofRequest 0) + (resent.2.tasks 0).work ≤ 8 ∧
    resent.1.countP (attestsFor 0) + (resent.2.tasks 0).attestations ≤ 2 :=
  have progress := never_stuck default 0 0 resent.1 resent.2 (Transition.Run.execute _ _ _) 0
  ⟨progress.1, progress.2.1⟩

/-! Under a fair lock every request is done. -/

/-- Attestations and operations end, or are dropped; and a request for which the lock is free again
and again gets it at last, as it does from a queue. -/
structure Fair (run : Transition.Infinite (step policy) (Attested.new now client : State C B T)) :
    Prop where
  ends : ∀ n i, ((run.state n).tasks i).awaits = true → ∃ m ≥ n, (run.action m).request = some i
  lock : ∀ i, (∀ n, ∃ m ≥ n, CanLock policy (run.state m) i) →
    ∀ n, ∃ m ≥ n, (run.action m).request = some i

variable {run : Transition.Infinite (step policy) (Attested.new now client : State C B T)}

theorem tasks_kept (i : Nat) (task : Task C B T) (m : Nat) (here : (run.state m).tasks i = task)
    (other : ¬ (run.action m).request = some i) : (run.state (m + 1)).tasks i = task :=
  (tasks_other (step_moves (run.steps m)) other).trans here

theorem tasks_until {n : Nat} (ends : ∃ m ≥ n, (run.action m).request = some i) :
    ∃ m ≥ n, (run.state m).tasks i = (run.state n).tasks i ∧ (run.action m).request = some i :=
  run.holds_until (fun s => s.tasks i = (run.state n).tasks i) (fun a => a.request = some i) rfl
    (tasks_kept i _) ends

/-- The lock is given back: by the end of the attestation, or by the drop of its request. -/
theorem writer_released (taken : step policy s a = some s') (attests : (s.tasks i).attests = true)
    (own : a.request = some i) : s'.writer = none := by
  cases step_moves taken with
  | tick d => cases own
  | arrive before | hit before | miss before | found before | clear before | fault before
  | answer before | conclude before =>
    cases own
    rw [before] at attests
    cases attests
  | store _ | fail _ | abandon _ => rfl
  | drop calm =>
    cases own
    rw [attests] at calm
    cases calm

theorem lock_freed (fair : Fair run) (n : Nat) : ∃ m ≥ n, (run.state m).writer = none := by
  cases locked : (run.state n).writer with
  | none => exact ⟨n, Nat.le_refl _, locked⟩
  | some j =>
    have attests := ((coherent_run (run.finite n)).writer j).mp locked
    have awaits : ((run.state n).tasks j).awaits = true := by
      unfold Task.awaits
      rw [attests, Bool.true_or]
    obtain ⟨m, later, still, own⟩ := tasks_until (fair.ends n j awaits)
    refine ⟨m + 1, by omega, writer_released (run.steps m) ?_ own⟩
    rw [still]
    exact attests

/-- A request that has arrived takes another step, whatever it is at. -/
theorem steps_again (fair : Fair run) (n i : Nat)
    (arrived : ((run.state n).tasks i).body.isSome = true) :
    ∃ m ≥ n, (run.action m).request = some i := by
  rcases queues_or_awaits arrived with queues | awaits
  · by_contra never
    simp only [not_exists, not_and] at never
    have waits : ∀ m ≥ n, (run.state m).tasks i = (run.state n).tasks i :=
      run.holds_always (fun s => s.tasks i = (run.state n).tasks i) (fun a => a.request = some i)
        rfl (tasks_kept i _) never
    have often : ∀ k, ∃ m ≥ k, CanLock policy (run.state m) i := by
      intro k
      obtain ⟨m, later, unlocked⟩ := lock_freed fair (max k n)
      refine ⟨m, by omega, canLock_of_free policy unlocked ?_⟩
      rw [waits m (by omega)]
      exact queues
    obtain ⟨m, later, own⟩ := fair.lock i often n
    exact never m later own
  · exact fair.ends n i awaits

/-- It has arrived, and has not been dropped. -/
def Task.lives : Task C B T → Bool
  | .idle | .cancelled => false
  | _ => true

theorem lives_step (moves : Moves policy s a s') (own : a.request = some i)
    (kept : a ≠ .cancel i) : (s'.tasks i).lives = true := by
  cases moves with
  | tick d => cases own
  | drop _ | abandon _ =>
    cases own
    exact absurd rfl kept
  | @found j body cause current _ _ _ | @store j body cause client _ =>
    cases own
    cases cause <;> simp [Task.resume, Task.lives]
  | arrive _ | hit _ | miss _ | clear _ | fail _ | fault _ | answer _ _ | conclude _ =>
    cases own
    simp [Task.lives]

theorem lives_cases {task : Task C B T} (lives : task.lives = true) :
    (∃ result, task = .done result) ∨ task.body.isSome = true := by
  cases task with
  | idle | cancelled => cases lives
  | done result => exact .inl ⟨result, rfl⟩
  | _ => exact .inr rfl

theorem lives_settles (fair : Fair run) (n : Nat) (lives : ((run.state n).tasks i).lives = true)
    (kept : ∀ m, run.action m ≠ .cancel i) :
    ∃ m ≥ n, ∃ result, (run.state m).tasks i = .done result := by
  have progress : ∀ k, ((run.state k).tasks i).lives = true →
      (∃ result, (run.state k).tasks i = .done result) ∨
      ∃ m ≥ k, ((run.state m).tasks i).lives = true ∧
        ((run.state m).tasks i).work < ((run.state k).tasks i).work := by
    intro k lives
    rcases lives_cases lives with done | waits
    · exact .inl done
    · obtain ⟨m, later, still, own⟩ := tasks_until (steps_again fair k i waits)
      have taken := run.steps m
      have less := work_lt taken own
      rw [still] at less
      exact .inr ⟨m + 1, by omega, lives_step (step_moves taken) own (kept m), less⟩
  exact run.reaches (fun s => (s.tasks i).lives = true)
    (fun s => ∃ result, s.tasks i = .done result) (fun s => (s.tasks i).work) progress n lives

theorem lives_arrive {n : Nat} {body : B} (arrives : run.action n = .arrive i body) :
    ((run.state (n + 1)).tasks i).lives = true := by
  apply lives_step (step_moves (run.steps n))
  · rw [arrives]
    rfl
  · intro dropped
    rw [arrives] at dropped
    cases dropped

/-- Over every fair run, each request that arrives and is not dropped by its caller is answered. -/
theorem fair_settles (policy : ReattestPolicy) (now : Nat) (client : C)
    (run : Transition.Infinite (step policy) (Attested.new now client : State C B T))
    (fair : Fair run) (i n : Nat) (body : B) (arrives : run.action n = .arrive i body)
    (kept : ∀ m, run.action m ≠ .cancel i) :
    ∃ m ≥ n, ∃ result, (run.state m).tasks i = .done result := by
  obtain ⟨m, later, done⟩ := lives_settles fair (n + 1) (lives_arrive arrives) kept
  exact ⟨m, by omega, done⟩

end

/-- Two requests fail on the one client, the second waits while the first attests again, and takes
the client it finds. From then on there is nothing but time. -/
def contendedAction : Nat → Action Nat Unit Nat
  | 0 => .tick (Duration.fromSecs 90)
  | 1 => .arrive 0 ()
  | 2 => .arrive 1 ()
  | 3 => .read 0
  | 4 => .read 1
  | 5 => .finish 0 (.error (.ehbp "tag mismatch"))
  | 6 => .finish 1 (.error (.ehbp "tag mismatch"))
  | 7 => .acquire 0
  | 8 => .tick (Duration.fromSecs 1)
  | 9 => .attested 0 (.ok 1)
  | 10 => .acquire 1
  | 11 => .finish 0 (.ok 7)
  | 12 => .finish 1 (.ok 8)
  | _ => .tick 1

def contendedState : Nat → State Nat Unit Nat
  | 0 => Attested.new 0 0
  | n + 1 => (step default (contendedState n) (contendedAction n)).getD (contendedState n)

theorem contendedAction_enabled (n : Nat) :
    (step default (contendedState n) (contendedAction n)).isSome = true := by
  by_cases early : n < 13
  · revert n
    decide
  · obtain ⟨k, rfl⟩ := Nat.exists_eq_add_of_le' (Nat.le_of_not_lt early)
    rfl

def contended : Transition.Infinite (step default) (Attested.new 0 0 : State Nat Unit Nat) where
  state := contendedState
  action := contendedAction
  begins := rfl
  steps n := by
    obtain ⟨s', taken⟩ := Option.isSome_iff_exists.mp (contendedAction_enabled n)
    have next : contendedState (n + 1) =
        (step default (contendedState n) (contendedAction n)).getD (contendedState n) := rfl
    rw [next, taken, Option.getD_some]

theorem contended_others (n i : Nat) : (contendedState n).tasks (i + 2) = .idle := by
  have never : ∀ m ≥ 0, ¬ (contendedAction m).request = some (i + 2) := by
    intro m _ own
    unfold contendedAction at own
    split at own <;> cases own
  have kept (m : Nat) : (contendedState m).tasks (i + 2) = .idle →
      ¬ (contendedAction m).request = some (i + 2) →
      (contendedState (m + 1)).tasks (i + 2) = .idle := by
    intro here other
    exact (tasks_other (step_moves (contended.steps m)) other).trans here
  exact contended.holds_always (fun s => s.tasks (i + 2) = .idle)
    (fun a => a.request = some (i + 2)) rfl kept never n (Nat.zero_le n)

theorem contended_answered (n : Nat) : (contendedState (n + 13)).tasks 0 = .done (.ok 7) ∧
    (contendedState (n + 13)).tasks 1 = .done (.ok 8) := by
  induction n with
  | zero => exact ⟨rfl, rfl⟩
  | succ n ih => exact ih

theorem contended_settled (n i : Nat) : ((contendedState (n + 13)).tasks i).body = none := by
  match i with
  | 0 => rw [(contended_answered n).1]; rfl
  | 1 => rw [(contended_answered n).2]; rfl
  | i + 2 => rw [contended_others]; rfl

theorem body_of_awaits {task : Task C B T} (awaits : task.awaits = true) :
    task.body.isSome = true := by
  cases task <;> first | rfl | cases awaits

theorem fair_contended : Fair contended where
  ends n i awaits := by
    have awaits : ((contendedState n).tasks i).awaits = true := awaits
    have early : n < 13 := by
      by_contra late
      obtain ⟨k, rfl⟩ := Nat.exists_eq_add_of_le' (Nat.le_of_not_lt late)
      have busy := body_of_awaits awaits
      rw [contended_settled] at busy
      cases busy
    match i with
    | 0 =>
      have running : n ≠ 12 := by
        rintro rfl
        cases awaits
      exact ⟨11, by omega, rfl⟩
    | 1 => exact ⟨12, by omega, rfl⟩
    | i + 2 =>
      rw [contended_others] at awaits
      cases awaits
  lock i often n := by
    obtain ⟨m, later, can⟩ := often 13
    obtain ⟨k, rfl⟩ := Nat.exists_eq_add_of_le' later
    have arrived : ((contendedState (k + 13)).tasks i).body.isSome = true := arrived_of_canLock can
    rw [contended_settled] at arrived
    cases arrived

theorem contended_kept (m i : Nat) : contended.action m ≠ .cancel i := by
  show contendedAction m ≠ _
  unfold contendedAction
  intro dropped
  split at dropped <;> cases dropped

theorem fair_settles_contended :
    ∃ m ≥ 2, ∃ result, (contended.state m).tasks 1 = .done result :=
  fair_settles default 0 0 contended fair_contended 1 2 () rfl fun m => contended_kept m 1

end PpqTee.Proxy
