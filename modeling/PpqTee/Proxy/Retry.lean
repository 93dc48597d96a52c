import PpqTee.Proxy.Coherent

/-! What one request does over a run, whatever the others do: how often its operation runs, on
which clients and why again, and where its result comes from. -/

namespace PpqTee.Proxy

variable {C B T : Type}

/-- The request whose step this is. -/
def Action.request : Action C B T → Option Nat
  | .tick _ => none
  | .arrive i _ | .read i | .acquire i | .attested i _ | .finish i _ | .cancel i => some i

def Task.body : Task C B T → Option B
  | .reading body | .waiting body _ | .attesting body _ => some body
  | .running body _ | .retrying body _ => some body
  | .idle | .done _ | .cancelled => none

/-- No step of the request is left. -/
def Task.settled : Task C B T → Bool
  | .done _ | .cancelled => true
  | _ => false

/-- The operation that this step starts for request `i`: the body it is given and the client it
is given to. -/
def launches (policy : ReattestPolicy) (i : Nat) (event : Event C B T) : Option (B × Cached C) :=
  match (event.1.tasks i).runs, step policy event.1 event.2 with
  | none, some s' => (s'.tasks i).runs
  | _, _ => none

/-- All the operations of request `i` in a run, in order. -/
def launched (policy : ReattestPolicy) (i : Nat) (trace : List (Event C B T)) :
    List (B × Cached C) :=
  trace.filterMap (launches policy i)

def Arrived (i : Nat) (body : B) (trace : List (Event C B T)) : Prop :=
  ∃ m, (m, .arrive i body) ∈ trace

/-- The operation of request `i` failed on `first`, in a way that warrants another attestation
and on a client old enough for it. -/
def Faulted (policy : ReattestPolicy) (i : Nat) (first : B × Cached C)
    (trace : List (Event C B T)) : Prop :=
  ∃ m err, (m, .finish i (.error err)) ∈ trace ∧ m.tasks i = .running first.1 first.2 ∧
    warrantsReattest err = true ∧ first.2.attestedAt + policy.minReattestInterval ≤ m.now

/-- `replace` returns `again` in this step: what it finds in the slot, or what it attested. -/
def Replaces (i : Nat) (first again : Cached C) : Event C B T → Prop
  | (s, .acquire j) => j = i ∧ replacement s.slot (some first.client) = some again
  | (s, .attested j outcome) => j = i ∧ ∃ client, outcome = .ok client ∧
      again = ⟨s.now, ⟨s.minted, client⟩⟩
  | _ => False

/-- What may be sent on behalf of one request. -/
structure Disciplined (policy : ReattestPolicy) (i : Nat) (trace : List (Event C B T))
    (s : State C B T) : Prop where
  twice : (launched policy i trace).length ≤ 2
  apart : (launched policy i trace).Pairwise fun a b => a.2.client.ptr ≠ b.2.client.ptr
  same : (launched policy i trace).Pairwise fun a b => a.1 = b.1
  arrived : ∀ sent ∈ launched policy i trace, Arrived i sent.1 trace
  again : ∀ before event after first second, trace = before ++ event :: after →
    first ∈ launched policy i before → launches policy i event = some second →
    Faulted policy i first before ∧ Replaces i first.2 second.2 event
  settled : ∀ before m outcome after, trace = before ++ (m, .finish i outcome) :: after →
    (∀ err, outcome = .error err → warrantsReattest err = false) →
    ∀ event ∈ after, event.2.request ≠ some i
  result : ∀ result, s.tasks i = .done result →
    ∃ before m a after, trace = before ++ (m, a) :: after ∧
      (∀ event ∈ after, event.2.request ≠ some i) ∧
      ((a = .finish i result ∧ ∃ last, (launched policy i before).getLast? = some last ∧
          (m.tasks i).runs = some last) ∨
        ∃ e, a = .attested i (.error e) ∧ (m.tasks i).attests = true ∧ result = .error e)

variable {policy : ReattestPolicy} {i : Nat} {trace : List (Event C B T)} {s s' : State C B T}
  {a : Action C B T} {outcome : Result T}

theorem tasks_other (moves : Moves policy s a s') (other : a.request ≠ some i) :
    s'.tasks i = s.tasks i := by
  cases moves with
  | tick d => rfl
  | @arrive j _ _ | @hit j _ _ _ _ _ _ | @miss j _ _ _ _ | @found j _ _ _ _ _ _
  | @clear j _ _ _ _ _ | @store j _ _ _ _ | @fail j _ _ _ _ | @fault j _ _ _ _ _
  | @answer j _ _ _ _ _ | @conclude j _ _ _ _ | @drop j _ | @abandon j _ _ _ =>
    have apart : i ≠ j := fun same => other (by rw [same]; rfl)
    exact set_other s _ apart

theorem launches_taken (taken : step policy s a = some s') (quiet : (s.tasks i).runs = none) :
    launches policy i (s, a) = (s'.tasks i).runs := by
  simp only [launches, quiet, taken]

theorem launches_running (runs : (s.tasks i).runs ≠ none) : launches policy i (s, a) = none := by
  unfold launches
  split
  · exact absurd ‹_› runs
  · rfl

theorem launches_other (taken : step policy s a = some s') (other : a.request ≠ some i) :
    launches policy i (s, a) = none := by
  by_cases quiet : (s.tasks i).runs = none
  · rw [launches_taken taken quiet, tasks_other (step_moves taken) other, quiet]
  · exact launches_running quiet

theorem launched_snoc (event : Event C B T) : launched policy i (trace ++ [event]) =
    launched policy i trace ++ (launches policy i event).toList := by
  simp only [launched, List.filterMap_append]
  cases started : launches policy i event <;> simp [started]

theorem Arrived.snoc {body : B} (arrived : Arrived i body trace) (event : Event C B T) :
    Arrived i body (trace ++ [event]) := by
  obtain ⟨m, member⟩ := arrived
  exact ⟨m, List.mem_append_left _ member⟩

theorem Faulted.snoc {first : B × Cached C} (faulted : Faulted policy i first trace)
    (event : Event C B T) : Faulted policy i first (trace ++ [event]) := by
  obtain ⟨m, err, member, rest⟩ := faulted
  exact ⟨m, err, List.mem_append_left _ member, rest⟩

/-- What has been sent for a request: nothing, or its body, to no client twice. -/
structure Sent (i : Nat) (trace : List (Event C B T)) (sent : List (B × Cached C)) : Prop where
  few : sent.length ≤ 2
  apart : sent.Pairwise fun a b => a.2.client.ptr ≠ b.2.client.ptr
  same : sent.Pairwise fun a b => a.1 = b.1
  arrived : ∀ one ∈ sent, Arrived i one.1 trace

/-- The past of request `i`, as far as it can be told from where the request stands. -/
def Past (policy : ReattestPolicy) (i : Nat) (trace : List (Event C B T)) : Task C B T → Prop
  | .idle => launched policy i trace = []
  | .reading body | .waiting body (.aged _) | .attesting body (.aged _) =>
    launched policy i trace = [] ∧ Arrived i body trace
  | .running body cached => launched policy i trace = [(body, cached)] ∧ Arrived i body trace
  | .waiting body (.failed stale) | .attesting body (.failed stale) =>
    launched policy i trace = [(body, stale)] ∧ Arrived i body trace ∧
      Faulted policy i (body, stale) trace
  | .retrying body fresh => ∃ stale, launched policy i trace = [(body, stale), (body, fresh)] ∧
    Arrived i body trace ∧ stale.client.ptr ≠ fresh.client.ptr
  | .done _ | .cancelled => Sent i trace (launched policy i trace)

theorem Past.sent {task : Task C B T} (past : Past policy i trace task) :
    Sent i trace (launched policy i trace) := by
  have nothing : Sent i trace [] := ⟨by simp, by simp, by simp, by simp⟩
  have once : ∀ body (cached : Cached C), Arrived i body trace → Sent i trace [(body, cached)] :=
    fun body cached arrived => ⟨by simp, by simp, by simp, by simpa using arrived⟩
  match task, past with
  | .idle, empty =>
    rw [empty]
    exact nothing
  | .reading _, ⟨empty, _⟩ | .waiting _ (.aged _), ⟨empty, _⟩ | .attesting _ (.aged _), ⟨empty, _⟩ =>
    rw [empty]
    exact nothing
  | .running body cached, ⟨one, arrived⟩ | .waiting body (.failed cached), ⟨one, arrived, _⟩
  | .attesting body (.failed cached), ⟨one, arrived, _⟩ =>
    rw [one]
    exact once body cached arrived
  | .retrying body fresh, ⟨stale, two, arrived, apart⟩ =>
    rw [two]
    exact ⟨by simp, by simpa using apart, by simp, by simpa using arrived⟩
  | .done _, sent | .cancelled, sent => exact sent

/-- A step that starts no operation of the request, and leaves it where it is. -/
theorem Past.keep {task : Task C B T} (past : Past policy i trace task) {event : Event C B T}
    (silent : launches policy i event = none) : Past policy i (trace ++ [event]) task := by
  have same : launched policy i (trace ++ [event]) = launched policy i trace := by
    rw [launched_snoc, silent]
    simp
  match task, past with
  | .idle, empty => exact same.trans empty
  | .reading _, ⟨empty, arrived⟩ | .waiting _ (.aged _), ⟨empty, arrived⟩
  | .attesting _ (.aged _), ⟨empty, arrived⟩ =>
    exact ⟨same.trans empty, arrived.snoc event⟩
  | .running _ _, ⟨one, arrived⟩ => exact ⟨same.trans one, arrived.snoc event⟩
  | .waiting _ (.failed _), ⟨one, arrived, faulted⟩
  | .attesting _ (.failed _), ⟨one, arrived, faulted⟩ =>
    exact ⟨same.trans one, arrived.snoc event, faulted.snoc event⟩
  | .retrying _ _, ⟨stale, two, arrived, apart⟩ =>
    exact ⟨stale, same.trans two, arrived.snoc event, apart⟩
  | .done _, sent | .cancelled, sent =>
    show Sent i _ _
    rw [same]
    exact ⟨sent.few, sent.apart, sent.same, fun one member => (sent.arrived one member).snoc event⟩

theorem retries_iff {now : Nat} {cached : Cached C} {err : Error} (past : cached.attestedAt ≤ now) :
    retries policy now cached err = true ↔ warrantsReattest err = true ∧
      cached.attestedAt + policy.minReattestInterval ≤ now := by
  simp only [retries, Bool.not_eq_true', Bool.or_eq_false_iff, Bool.not_eq_false',
    decide_eq_false_iff_not, Nat.not_lt]
  apply and_congr_right
  intro _
  omega

/-- A failed request gets another client from `replace` than the one it failed on: in the slot it
must not find the same, and an attestation makes a new one. -/
theorem Past.again {body : B} {stale fresh : Cached C}
    (past : launched policy i trace = [(body, stale)] ∧ Arrived i body trace)
    (apart : stale.client.ptr ≠ fresh.client.ptr) {event : Event C B T}
    (started : launches policy i event = some (body, fresh)) :
    Past policy i (trace ++ [event]) (.retrying body fresh) := by
  refine ⟨stale, ?_, past.2.snoc event, apart⟩
  rw [launched_snoc, started, past.1]
  rfl

theorem past_step (coherent : Coherent policy s) (past : Past policy i trace (s.tasks i))
    (taken : step policy s a = some s') : Past policy i (trace ++ [(s, a)]) (s'.tasks i) := by
  have moves := step_moves taken
  by_cases other : a.request ≠ some i
  · rw [tasks_other moves other]
    exact past.keep (launches_other taken other)
  have own : a.request = some i := not_not.mp other
  -- a step that leaves no operation running has started none
  have silent : (s'.tasks i).runs = none → Past policy i (trace ++ [(s, a)]) (s.tasks i) := by
    intro quiet
    apply past.keep
    by_cases before : (s.tasks i).runs = none
    · rw [launches_taken taken before, quiet]
    · exact launches_running before
  have started : (s.tasks i).runs = none → launches policy i (s, a) = (s'.tasks i).runs :=
    launches_taken taken
  cases moves with
  | tick d => cases own
  | arrive idle =>
    cases own
    rw [idle] at silent
    rw [set_same] at silent ⊢
    exact ⟨silent rfl, s, by simp⟩
  | hit reads =>
    cases own
    rw [reads] at past started
    rw [set_same] at started ⊢
    refine ⟨?_, past.2.snoc _⟩
    rw [launched_snoc, started rfl, past.1]
    rfl
  | miss reads =>
    cases own
    rw [reads] at silent
    rw [set_same] at silent ⊢
    exact silent rfl
  | @found j body cause current waits _ found =>
    cases own
    obtain ⟨_, arc, same, apart⟩ := replacement_slot found
    cases cause with
    | aged seen => cases same
    | failed stale =>
      cases same
      rw [waits] at past started
      rw [set_same] at started ⊢
      exact Past.again ⟨past.1, past.2.1⟩ (Ne.symm apart) (started rfl)
  | @clear j body cause waits =>
    cases own
    rw [waits] at silent
    simp only [set_same] at silent ⊢
    cases cause <;> exact silent rfl
  | @store j body cause client attests =>
    cases own
    rw [attests] at past started
    simp only [set_same] at started ⊢
    cases cause with
    | aged seen =>
      refine ⟨?_, past.2.snoc _⟩
      rw [launched_snoc, started rfl, past.1]
      rfl
    | failed stale =>
      have known := coherent.held i stale (by rw [attests]; rfl)
      exact Past.again ⟨past.1, past.2.1⟩ (Nat.ne_of_lt known.minted) (started rfl)
  | @fault j body cached err runs fails =>
    cases own
    rw [runs] at silent
    rw [set_same] at silent ⊢
    obtain ⟨one, arrived⟩ := silent rfl
    obtain ⟨warrants, old⟩ := (retries_iff (coherent.held i cached (by rw [runs]; rfl)).past).mp fails
    exact ⟨one, arrived, s, err, by simp, runs, warrants, old⟩
  | fail _ | answer _ _ | conclude _ | drop _ | abandon _ =>
    cases own
    simp only [set_same] at silent ⊢
    exact (silent rfl).sent

theorem past_run {now : Nat} {client : C}
    (run : Transition.Run (step policy) (Attested.new now client) trace s) (i : Nat) :
    Past policy i trace (s.tasks i) := by
  apply run.invariant
  · rfl
  · intro trace s a s' earlier past taken
    exact past_step (coherent_run earlier) past taken

/-- A request is done when its operation returns, or when its attestation fails. -/
theorem done_before (moves : Moves policy s a s') {result : Result T}
    (done : s'.tasks i = .done result) :
    s.tasks i = .done result ∨ (a = .finish i result ∧ ∃ last, (s.tasks i).runs = some last) ∨
      ∃ e, a = .attested i (.error e) ∧ (s.tasks i).attests = true ∧ result = .error e := by
  by_cases other : a.request ≠ some i
  · exact .inl ((tasks_other moves other).symm.trans done)
  have own : a.request = some i := not_not.mp other
  cases moves with
  | tick d => cases own
  | @answer j body cached outcome runs | @conclude j body cached outcome runs =>
    cases own
    rw [set_same] at done
    cases done
    exact .inr (.inl ⟨rfl, (body, cached), by rw [runs]; rfl⟩)
  | @fail j body cause e attests =>
    cases own
    have same : .error e = result := by simpa using done
    subst same
    exact .inr (.inr ⟨e, rfl, by rw [attests]; rfl, rfl⟩)
  | @found j _ cause _ | @store j _ cause =>
    cases own
    cases cause <;> simp [Task.resume] at done
  | arrive _ | hit _ | miss _ | clear _ | fault _ | drop _ | abandon _ =>
    cases own
    simp at done

theorem step_settled (settled : (s.tasks i).settled = true) (own : a.request = some i) :
    step policy s a = none := by
  cases held : s.tasks i with
  | done result | cancelled => cases a <;> cases own <;> simp [step, held]
  | _ =>
    rw [held] at settled
    cases settled

theorem settled_run (run : Transition.Run (step policy) s trace s')
    (settled : (s.tasks i).settled = true) :
    s'.tasks i = s.tasks i ∧ ∀ event ∈ trace, event.2.request ≠ some i := by
  apply run.invariant
  · exact ⟨rfl, by simp⟩
  · intro trace m a m' _ past taken
    obtain ⟨same, silent⟩ := past
    have other : a.request ≠ some i := by
      intro own
      rw [step_settled (by rw [same]; exact settled) own] at taken
      cases taken
    refine ⟨(tasks_other (step_moves taken) other).trans same, ?_⟩
    intro event member
    rcases List.mem_append.mp member with before | last
    · exact silent event before
    · rw [List.mem_singleton.mp last]
      exact other

section

variable {now : Nat} {client : C}

/-- The step with which a request was done; it takes no other behind it. -/
theorem done_at (run : Transition.Run (step policy) (Attested.new now client) trace s)
    {result : Result T} (done : s.tasks i = .done result) :
    ∃ before m a after, trace = before ++ (m, a) :: after ∧
      (∀ event ∈ after, event.2.request ≠ some i) ∧
      ((a = .finish i result ∧ ∃ last, (m.tasks i).runs = some last) ∨
        ∃ e, a = .attested i (.error e) ∧ (m.tasks i).attests = true ∧ result = .error e) := by
  induction run with
  | start => cases done
  | @next trace s s' a earlier taken ih =>
    have moves := step_moves taken
    rcases done_before moves done with before | cause
    · obtain ⟨front, m, b, after, whole, silent, cause⟩ := ih before
      refine ⟨front, m, b, after ++ [(s, a)], by rw [whole]; simp, ?_, cause⟩
      have later := (settled_run (Transition.Run.start.next taken) (by rw [before]; rfl)).2
      intro event member
      exact (List.mem_append.mp member).elim (silent event) (later event)
    · exact ⟨trace, s, a, [], rfl, by simp, cause⟩

theorem second_launch (run : Transition.Run (step policy) (Attested.new now client) trace s)
    (taken : step policy s a = some s') {first second : B × Cached C}
    (sent : first ∈ launched policy i trace) (started : launches policy i (s, a) = some second) :
    Faulted policy i first trace ∧ Replaces i first.2 second.2 (s, a) := by
  have past := past_run run i
  have quiet : (s.tasks i).runs = none := by
    by_contra running
    rw [launches_running running] at started
    cases started
  have own : a.request = some i := by
    by_contra other
    rw [launches_other taken other] at started
    cases started
  rw [launches_taken taken quiet] at started
  cases step_moves taken with
  | tick d => cases own
  | hit reads =>
    cases own
    rw [reads] at past
    rw [past.1] at sent
    cases sent
  | @found j body cause current waits _ found =>
    cases own
    cases cause with
    | aged seen => cases (replacement_slot found).2.choose_spec.1
    | failed stale =>
      rw [waits] at past
      rw [past.1, List.mem_singleton] at sent
      rw [set_same] at started
      cases started
      subst sent
      exact ⟨past.2.2, rfl, found⟩
  | @store j body cause client attests =>
    cases own
    rw [attests] at past
    cases cause with
    | aged seen =>
      rw [past.1] at sent
      cases sent
    | failed stale =>
      rw [past.1, List.mem_singleton] at sent
      simp only [set_same] at started
      cases started
      subst sent
      exact ⟨past.2.2, rfl, client, rfl, rfl⟩
  | arrive _ | miss _ _ _ | clear _ _ _ | fail _ | fault _ _ | answer _ _ | conclude _ | drop _
  | abandon _ =>
    cases own
    simp [Task.runs] at started

theorem finish_settles (taken : step policy s (.finish i outcome) = some s')
    (final : ∀ err, outcome = .error err → warrantsReattest err = false) :
    s'.tasks i = .done outcome := by
  cases step_moves taken with
  | @fault j body cached err runs fails =>
    simp [retries, final err rfl] at fails
  | answer runs _ => exact set_same _ _ _
  | conclude runs => exact set_same _ _ _

/-- What an operation returned is the result of its request, unless it may be retried. -/
theorem done_of_finish (run : Transition.Run (step policy) (Attested.new now client) trace s)
    {m : State C B T} (member : (m, .finish i outcome) ∈ trace)
    (final : ∀ err, outcome = .error err → warrantsReattest err = false) :
    s.tasks i = .done outcome := by
  obtain ⟨before, after, whole⟩ := List.append_of_mem member
  subst whole
  obtain ⟨m', _, taken, later⟩ := run.split
  have settles := finish_settles taken final
  calc s.tasks i
    _ = m'.tasks i := (settled_run later (by rw [settles]; rfl)).1
    _ = .done outcome := settles

theorem Past.last {last : B × Cached C} {task : Task C B T} (past : Past policy i trace task)
    (runs : task.runs = some last) : (launched policy i trace).getLast? = some last := by
  match task, past with
  | .running body cached, ⟨one, _⟩ =>
    rw [one]
    exact runs
  | .retrying body fresh, ⟨stale, two, _⟩ =>
    rw [two]
    exact runs
  | .idle, _ | .reading _, _ | .waiting _ _, _ | .attesting _ _, _ | .done _, _ | .cancelled, _ =>
    cases runs

/-- Over every run, whatever the other requests do, a request's operation runs at most twice, and
again only on another client and for a reason; its result is that of the last time, or the error
of the attestation that kept it from running. -/
theorem disciplined (run : Transition.Run (step policy) (Attested.new now client) trace s)
    (i : Nat) : Disciplined policy i trace s where
  twice := (past_run run i).sent.few
  apart := (past_run run i).sent.apart
  same := (past_run run i).sent.same
  arrived := (past_run run i).sent.arrived
  again before event after first second whole sent started := by
    subst whole
    obtain ⟨m', earlier, taken, _⟩ := run.split
    exact second_launch earlier taken sent started
  settled before m outcome after whole final := by
    subst whole
    obtain ⟨m', _, taken, later⟩ := run.split
    apply (settled_run later _).2
    rw [finish_settles taken final]
    rfl
  result result done := by
    obtain ⟨before, m, a, after, whole, silent, cause⟩ := done_at run done
    refine ⟨before, m, a, after, whole, silent, ?_⟩
    rcases cause with ⟨same, last, runs⟩ | failed
    · subst whole
      obtain ⟨_, earlier, _, _⟩ := run.split
      exact .inl ⟨same, last, (past_run earlier i).last runs, runs⟩
    · exact .inr failed

end

/-- A request that is sent twice: its operation fails on a client old enough to be replaced. -/
def resent : List (Event Nat Unit Nat) × State Nat Unit Nat :=
  Transition.execute (step default) (Attested.new 0 0)
    [.arrive 0 (), .read 0, .tick (Duration.fromSecs 30), .finish 0 (.error (.ehbp "tag mismatch")),
      .acquire 0, .attested 0 (.ok 1), .finish 0 (.ok 7)]

theorem disciplined_resent :
    (launched default 0 resent.1).length = 2 ∧ Disciplined default 0 resent.1 resent.2 :=
  ⟨rfl, disciplined (Transition.Run.execute _ _ _) 0⟩

end PpqTee.Proxy
