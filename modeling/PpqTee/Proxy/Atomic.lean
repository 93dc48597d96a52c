import PpqTee.Lib.Simulation
import PpqTee.Proxy.Retry

/-! What the lock is for: with it, the cache is a cell whose operations take effect at once. An
attestation may take its time, while others come and go, but nobody sees it half done. -/

namespace PpqTee.Proxy

variable {C B T : Type}

/-- The cell: there is no lock, and no attestation is under way. -/
structure Cell (C B T : Type) where
  now : Nat
  slot : Option (Cached C)
  minted : Nat
  tasks : Nat → Task C B T

def Cell.set (c : Cell C B T) (i : Nat) (task : Task C B T) : Cell C B T :=
  { c with tasks := Function.update c.tasks i task }

def Cell.new (now : Nat) (client : C) : Cell C B T where
  now := now
  slot := some { attestedAt := now, client := { ptr := 0, value := client } }
  minted := 1
  tasks _ := .idle

/-- A request looks at the client, or has it replaced, in one step each; `outcome` is what an
attestation gives at that moment, should one be needed. `forget` is a drop that empties the cell. -/
inductive CellAction (C B T : Type) where
  | tick (d : Nat)
  | arrive (i : Nat) (body : B)
  | current (i : Nat)
  | replace (i : Nat) (outcome : Result C)
  | finish (i : Nat) (outcome : Result T)
  | drop (i : Nat)
  | forget (i : Nat)

def CellAction.request : CellAction C B T → Option Nat
  | .tick _ => none
  | .arrive i _ | .current i | .replace i _ | .finish i _ | .drop i | .forget i => some i

def cellStep (policy : ReattestPolicy) (c : Cell C B T) : CellAction C B T → Option (Cell C B T)
  | .tick d => some { c with now := c.now + d }
  | .arrive i body =>
    match c.tasks i with
    | .idle => some (c.set i (.reading body))
    | _ => none
  | .current i =>
    match c.tasks i with
    | .reading body =>
      match c.slot.filter fun cached => c.now - cached.attestedAt < policy.reattestAfter with
      | some cached => some (c.set i (.running body cached))
      | none => some (c.set i (.waiting body (.aged c.slot)))
    | _ => none
  | .replace i outcome =>
    match c.tasks i with
    | .waiting body cause =>
      match replacement c.slot cause.stale, outcome with
      | some current, _ => some (c.set i (.resume body cause current))
      | none, .ok client =>
        let fresh := { attestedAt := c.now, client := { ptr := c.minted, value := client } }
        some { c.set i (.resume body cause fresh) with slot := some fresh, minted := c.minted + 1 }
      | none, .error e => some { c.set i (.done (.error e)) with slot := none }
    | _ => none
  | .finish i outcome =>
    match c.tasks i with
    | .running body cached =>
      match outcome with
      | .ok v => some (c.set i (.done (.ok v)))
      | .error err =>
        if retries policy c.now cached err then some (c.set i (.waiting body (.failed cached)))
        else some (c.set i (.done (.error err)))
    | .retrying _ _ => some (c.set i (.done outcome))
    | _ => none
  | .drop i => if (c.tasks i).body.isSome then some (c.set i .cancelled) else none
  | .forget i =>
    match c.tasks i with
    | .waiting _ _ => some { c.set i .cancelled with slot := none }
    | _ => none

/-- What the callers and the upstreams see of a request. -/
inductive Seen (C B T : Type) where
  | arrived (i : Nat) (body : B)
  | started (i : Nat) (body : B) (cached : Cached C)
  | ended (i : Nat) (result : Result T)
  | dropped (i : Nat)

/-- It can be told from where the request stands before and after. -/
def Task.change (i : Nat) (before after : Task C B T) : Option (Seen C B T) :=
  match before, after with
  | .idle, .reading body => some (.arrived i body)
  | _, .running body cached => some (.started i body cached)
  | _, .retrying body fresh => some (.started i body fresh)
  | _, .done result => some (.ended i result)
  | _, .cancelled => some (.dropped i)
  | _, _ => none

/-- With the time at which it is seen. -/
def observe (policy : ReattestPolicy) (event : Event C B T) : Option (Nat × Seen C B T) :=
  match event.2.request, step policy event.1 event.2 with
  | some i, some s' => (Task.change i (event.1.tasks i) (s'.tasks i)).map (event.1.now, ·)
  | _, _ => none

def observeCell (policy : ReattestPolicy) (event : Cell C B T × CellAction C B T) :
    Option (Nat × Seen C B T) :=
  match event.2.request, cellStep policy event.1 event.2 with
  | some i, some c' => (Task.change i (event.1.tasks i) (c'.tasks i)).map (event.1.now, ·)
  | _, _ => none

/-- As long as its attestation lasts, a request is still waiting for the cell. -/
def Task.queued : Task C B T → Task C B T
  | .attesting body cause => .waiting body cause
  | task => task

/-- The lock hides what the slot holds: while it is held, the cell still has its old client, and
that is to be replaced. -/
structure Refines (policy : ReattestPolicy) (s : State C B T) (c : Cell C B T) : Prop where
  coherent : Coherent policy s
  now : c.now = s.now
  minted : c.minted = s.minted
  tasks : c.tasks = fun i => (s.tasks i).queued
  free : s.writer = none → c.slot = s.slot
  held : ∀ j body cause, s.tasks j = .attesting body cause → replacement c.slot cause.stale = none

variable {policy : ReattestPolicy} {s s' : State C B T} {c : Cell C B T} {i : Nat}

theorem change_queued (before after : Task C B T) :
    Task.change i before.queued after.queued = Task.change i before after := by
  cases before <;> cases after <;> rfl

theorem queued_set (s : State C B T) (task : Task C B T) :
    (fun j => ((s.set i task).tasks j).queued) =
      Function.update (fun j => (s.tasks j).queued) i task.queued := by
  funext j
  by_cases here : j = i
  · rw [here, set_same, Function.update_self]
  · rw [set_other s task here, Function.update_of_ne here]

/-- A request that did not hold the lock moves, and so does its request at the cell. -/
theorem Refines.set (refines : Refines policy s c) {task : Task C B T}
    (coherent : Coherent policy (s.set i task)) (calm : task.attests = false) :
    Refines policy (s.set i task) (c.set i task) where
  coherent := coherent
  now := refines.now
  minted := refines.minted
  tasks := by
    have same : task.queued = task := by
      cases task with
      | attesting body cause => cases calm
      | _ => rfl
    rw [queued_set, same]
    exact congrArg (fun tasks => Function.update tasks i task) refines.tasks
  free := refines.free
  held j body cause attests := by
    by_cases here : j = i
    · rw [here, set_same] at attests
      rw [attests] at calm
      cases calm
    · rw [set_other s task here] at attests
      exact refines.held j body cause attests

/-- Once nobody attests any more, only the slot has to be what it is at the cell. -/
theorem Refines.release {task : Task C B T} {s' : State C B T} {c' : Cell C B T}
    (refines : Refines policy s c) (coherent : Coherent policy s')
    (tasks : s'.tasks = (s.set i task).tasks) (tasks' : c'.tasks = (c.set i task).tasks)
    (now : c'.now = s'.now) (minted : c'.minted = s'.minted) (slot : c'.slot = s'.slot)
    (unlocked : s'.writer = none) (calm : task.attests = false) : Refines policy s' c' where
  coherent := coherent
  now := now
  minted := minted
  tasks := by
    have same : task.queued = task := by
      cases task with
      | attesting body cause => cases calm
      | _ => rfl
    rw [tasks, tasks', queued_set, same]
    exact congrArg (fun tasks => Function.update tasks i task) refines.tasks
  free _ := slot
  held j body cause attests := by
    have free := coherent.free unlocked j
    rw [attests] at free
    cases free

/-- A step of the cell that leaves its request where the code leaves it is seen as the same. -/
theorem observed_alike (refines : Refines policy s c) {s' : State C B T} {c' : Cell C B T}
    {a : Action C B T} {b : CellAction C B T} (taken : step policy s a = some s')
    (moved : cellStep policy c b = some c') (same : b.request = a.request)
    (refines' : Refines policy s' c') : observeCell policy (c, b) = observe policy (s, a) := by
  unfold observe observeCell
  simp only [taken, moved, same]
  cases a.request with
  | none => rfl
  | some i =>
    simp only [refines.tasks, refines'.tasks, refines.now, change_queued]

theorem simulates_cell (policy : ReattestPolicy) :
    Transition.Simulates (step policy) (cellStep policy) (observe policy) (observeCell policy)
      (Refines policy : State C B T → Cell C B T → Prop) := by
  intro s c a s' refines taken
  have moves := step_moves taken
  have coherent := refines.coherent.step moves
  have waits : ∀ i, c.tasks i = (s.tasks i).queued := fun i => by rw [refines.tasks]
  -- where the code takes a step of the cell
  have matched : ∀ (b : CellAction C B T) (c' : Cell C B T), cellStep policy c b = some c' →
      b.request = a.request → Refines policy s' c' →
      (observe policy (s, a) = none ∧ Refines policy s' c) ∨
      ∃ b c', cellStep policy c b = some c' ∧ Refines policy s' c' ∧
        observeCell policy (c, b) = observe policy (s, a) :=
    fun b c' moved same refines' =>
      .inr ⟨b, c', moved, refines', observed_alike refines taken moved same refines'⟩
  cases moves with
  | tick d =>
    apply matched (.tick d) { c with now := c.now + d } rfl rfl
    exact ⟨coherent, by simp only [refines.now], refines.minted, refines.tasks, refines.free,
      refines.held⟩
  | @arrive i body idle =>
    apply matched (.arrive i body) _ _ rfl (refines.set coherent rfl)
    simp only [cellStep, waits, idle, Task.queued]
  | @hit i body cached reads unlocked slot young =>
    apply matched (.current i) _ _ rfl (refines.set coherent rfl)
    have found : s.slot.filter (fun cached => s.now - cached.attestedAt < policy.reattestAfter) =
        some cached := by
      rw [slot, Option.filter_some, if_pos (by simpa using young)]
    simp only [cellStep, waits, reads, Task.queued, refines.now, refines.free unlocked, found]
  | @miss i body reads unlocked old =>
    apply matched (.current i) _ _ rfl (refines.set coherent rfl)
    have none : s.slot.filter (fun cached => s.now - cached.attestedAt < policy.reattestAfter) =
        none := by
      rw [Option.filter_eq_none_iff]
      intro cached slot
      simpa using old cached slot
    simp only [cellStep, waits, reads, Task.queued, refines.now, refines.free unlocked, none]
  | @found i body cause current waiting unlocked found =>
    apply matched (.replace i (.error (.ehbp ""))) _ _ rfl (refines.set coherent _)
    · simp only [cellStep, waits, waiting, Task.queued, refines.free unlocked, found]
    · cases cause <;> rfl
  | @clear i body cause waiting unlocked none =>
    left
    refine ⟨?_, coherent, refines.now, refines.minted, ?_, ?_, ?_⟩
    · simp only [observe, taken, Action.request, set_same, waiting, Task.change, Option.map_none]
    · show c.tasks = fun j => ((s.set i (.attesting body cause)).tasks j).queued
      have same : (fun j => (s.tasks j).queued) i = .waiting body cause := by
        simp only [waiting, Task.queued]
      rw [queued_set, refines.tasks]
      simp only [Task.queued] at same ⊢
      rw [← same, Function.update_eq_self]
    · intro locked
      cases locked
    · intro j body' cause' attests
      by_cases here : j = i
      · subst here
        simp only [set_same] at attests
        cases attests
        rw [refines.free unlocked, none]
      · simp only [set_other s _ here] at attests
        have free := refines.coherent.free unlocked j
        rw [attests] at free
        cases free
  | @store i body cause client attests =>
    have none := refines.held i body cause attests
    have calm : (Task.resume body cause ⟨s.now, ⟨s.minted, client⟩⟩ : Task C B T).attests = false := by
      cases cause <;> rfl
    apply matched (.replace i (.ok client))
      { c.set i (.resume body cause ⟨s.now, ⟨s.minted, client⟩⟩) with
        slot := some ⟨s.now, ⟨s.minted, client⟩⟩, minted := s.minted + 1 } _ rfl
      (refines.release coherent rfl rfl refines.now rfl rfl rfl calm)
    simp only [cellStep, waits, attests, Task.queued, none, refines.now, refines.minted]
  | @fail i body cause e attests =>
    have none := refines.held i body cause attests
    have locked := (refines.coherent.writer i).mpr (by rw [attests]; rfl)
    have empty := refines.coherent.empty (by rw [locked]; simp)
    apply matched (.replace i (.error e)) { c.set i (.done (.error e)) with slot := Option.none } _ rfl
      (refines.release coherent rfl rfl refines.now refines.minted empty.symm rfl rfl)
    simp only [cellStep, waits, attests, Task.queued, none]
  | @fault i body cached err runs fails =>
    apply matched (.finish i (.error err)) _ _ rfl (refines.set coherent rfl)
    simp only [cellStep, waits, runs, Task.queued, refines.now, fails, if_true]
  | @answer i body cached outcome runs final =>
    apply matched (.finish i outcome) _ _ rfl (refines.set coherent rfl)
    cases outcome with
    | ok v => simp only [cellStep, waits, runs, Task.queued]
    | error err =>
      simp only [cellStep, waits, runs, Task.queued, refines.now, final err rfl, Bool.false_eq_true,
        if_false]
  | @conclude i body fresh outcome runs =>
    apply matched (.finish i outcome) _ _ rfl (refines.set coherent rfl)
    simp only [cellStep, waits, runs, Task.queued]
  | @drop i calm =>
    apply matched (.drop i) _ _ rfl (refines.set coherent rfl)
    have arrived : ((s.tasks i).queued).body.isSome = true := by
      cases held : s.tasks i with
      | idle | done result | cancelled => simp [step, held] at taken
      | _ => rfl
    simp only [cellStep, waits, arrived, if_true]
  | @abandon i body cause attests =>
    have locked := (refines.coherent.writer i).mpr (by rw [attests]; rfl)
    have empty := refines.coherent.empty (by rw [locked]; simp)
    apply matched (.forget i) { c.set i .cancelled with slot := none } _ rfl
      (refines.release coherent rfl rfl refines.now refines.minted empty.symm rfl rfl)
    simp only [cellStep, waits, attests, Task.queued]

theorem refines_new (policy : ReattestPolicy) (now : Nat) (client : C) :
    Refines policy (Attested.new now client : State C B T) (Cell.new now client) where
  coherent := coherent_new policy now client
  now := rfl
  minted := rfl
  tasks := rfl
  free _ := rfl
  held j body cause attests := by cases attests

/-- Every run of the proxy is a run of the cell: the requests arrive, get their clients, end and are
dropped at the same times, with the same clients and the same results, as if each look at the cached
client and each replacement of it had been a single step. -/
theorem attested_atomic (policy : ReattestPolicy) (now : Nat) (client : C)
    (trace : List (Event C B T)) (s : State C B T)
    (run : Transition.Run (step policy) (Attested.new now client) trace s) :
    ∃ matched c, Transition.Run (cellStep policy) (Cell.new now client) matched c ∧
      Transition.observations (observeCell policy) matched =
        Transition.observations (observe policy) trace ∧
      c.tasks = (fun i => (s.tasks i).queued) ∧ (s.writer = none → c.slot = s.slot) := by
  obtain ⟨matched, c, follows, refines, same⟩ :=
    (simulates_cell policy).run (refines_new policy now client) run
  exact ⟨matched, c, follows, same, refines.tasks, refines.free⟩

/-- Two steps of the code are one of the cell: the lock is taken, and the attestation ends. -/
theorem attested_atomic_resent : ∃ matched c,
    Transition.Run (cellStep default) (Cell.new 0 0) matched c ∧
      Transition.observations (observeCell default) matched =
        Transition.observations (observe default) resent.1 ∧
      (Transition.observations (observe default) resent.1).length = 4 := by
  obtain ⟨matched, c, follows, same, _⟩ :=
    attested_atomic default 0 0 resent.1 resent.2 (Transition.Run.execute _ _ _)
  exact ⟨matched, c, follows, same, rfl⟩

end PpqTee.Proxy
