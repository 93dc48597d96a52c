import PpqTee.Error
import PpqTee.Lib.Transition

/-! Keeping a sealed client bound to a current enclave key: the cached client, the lock
around it and the requests that use it, as one transition system. A request goes through
`with_reattest`; its await points are where its steps end, and any request may be dropped
at any of them. -/

namespace PpqTee.Proxy

structure ReattestPolicy where
  reattestAfter : Nat
  minReattestInterval : Nat
  deriving DecidableEq, Repr

instance : Inhabited ReattestPolicy where
  default :=
    { reattestAfter := Duration.fromSecs (60 * 60), minReattestInterval := Duration.fromSecs 30 }

/-- A value behind an `Arc`; `ptr` is what `Arc::ptr_eq` compares. -/
structure Arc (C : Type) where
  ptr : Nat
  value : C
  deriving DecidableEq, Repr

structure Cached (C : Type) where
  attestedAt : Nat
  client : Arc C
  deriving DecidableEq, Repr

/-- Only failures the enclave did not authenticate can be a stale-key symptom. -/
def warrantsReattest : Error → Bool
  | .http _ | .ehbp _ | .unauthenticatedUpstream _ _ | .attestation _ => true
  | .enclave _ _ | .json _ | .invalidModelId _ => false

/-- Why a request calls `replace`: `current` saw no client young enough, or the operation
failed on a client. What `current` saw is kept for the record only. -/
inductive Cause (C : Type) where
  | aged (seen : Option (Cached C))
  | failed (stale : Cached C)
  deriving DecidableEq, Repr

namespace Cause

variable {C : Type}

def stale : Cause C → Option (Arc C)
  | .aged _ => none
  | .failed stale => some stale.client

def client : Cause C → Option (Cached C)
  | .aged seen => seen
  | .failed stale => some stale

end Cause

/-- Where a request stands in `with_reattest`, with the body it was given. -/
inductive Task (C B T : Type) where
  | idle
  | reading (body : B)
  | waiting (body : B) (cause : Cause C)
  | attesting (body : B) (cause : Cause C)
  | running (body : B) (cached : Cached C)
  | retrying (body : B) (fresh : Cached C)
  | done (result : Result T)
  | cancelled

variable {C B T : Type}

namespace Task

def attests : Task C B T → Bool
  | .attesting _ _ => true
  | _ => false

def held : Task C B T → Option (Cached C)
  | .waiting _ cause | .attesting _ cause => cause.client
  | .running _ cached => some cached
  | .retrying _ fresh => some fresh
  | _ => none

/-- The client on whose failure a request waits for the write lock. -/
def failure : Task C B T → Option (Cached C)
  | .waiting _ (.failed stale) => some stale
  | _ => none

def runs : Task C B T → Option (B × Cached C)
  | .running body cached => some (body, cached)
  | .retrying body fresh => some (body, fresh)
  | _ => none

/-- Once `replace` has returned a client: the operation runs on it, or runs again. -/
def resume (body : B) : Cause C → Cached C → Task C B T
  | .aged _, cached => .running body cached
  | .failed _, fresh => .retrying body fresh

end Task

structure State (C B T : Type) where
  now : Nat
  slot : Option (Cached C)
  writer : Option Nat
  minted : Nat
  tasks : Nat → Task C B T

def State.set (s : State C B T) (i : Nat) (task : Task C B T) : State C B T :=
  { s with tasks := Function.update s.tasks i task }

/-- `Attested::new`, after its eager attestation produced `client`. -/
def Attested.new (now : Nat) (client : C) : State C B T where
  now := now
  slot := some { attestedAt := now, client := { ptr := 0, value := client } }
  writer := none
  minted := 1
  tasks _ := .idle

/-- What can happen: time passes, a request arrives, gets the read lock or the write lock, its
attestation or its operation ends, or it is dropped. -/
inductive Action (C B T : Type) where
  | tick (d : Nat)
  | arrive (i : Nat) (body : B)
  | read (i : Nat)
  | acquire (i : Nat)
  | attested (i : Nat) (outcome : Result C)
  | finish (i : Nat) (outcome : Result T)
  | cancel (i : Nat)

/-- The early return of `replace`: another task's client is in the slot already. -/
def replacement (slot : Option (Cached C)) (stale : Option (Arc C)) : Option (Cached C) :=
  match slot, stale with
  | some current, some stale => if current.client.ptr ≠ stale.ptr then some current else none
  | _, _ => none

/-- The end of `with_reattest`'s first run: is the failure to be retried? -/
def retries (policy : ReattestPolicy) (now : Nat) (cached : Cached C) (err : Error) : Bool :=
  !(!warrantsReattest err || decide (now - cached.attestedAt < policy.minReattestInterval))

def step (policy : ReattestPolicy) (s : State C B T) : Action C B T → Option (State C B T)
  | .tick d => some { s with now := s.now + d }
  | .arrive i body =>
    match s.tasks i with
    | .idle => some (s.set i (.reading body))
    | _ => none
  | .read i =>
    match s.tasks i, s.writer with
    | .reading body, none =>
      match s.slot with
      | some c =>
        if s.now - c.attestedAt < policy.reattestAfter then some (s.set i (.running body c))
        else some (s.set i (.waiting body (.aged (some c))))
      | none => some (s.set i (.waiting body (.aged none)))
    | _, _ => none
  | .acquire i =>
    match s.tasks i, s.writer with
    | .waiting body cause, none =>
      match replacement s.slot cause.stale with
      | some current => some (s.set i (.resume body cause current))
      -- the old client is dropped before attesting, and the lock is held across it
      | none => some { s.set i (.attesting body cause) with slot := none, writer := some i }
    | _, _ => none
  | .attested i outcome =>
    match s.tasks i with
    | .attesting body cause =>
      match outcome with
      | .ok client =>
        let fresh := { attestedAt := s.now, client := { ptr := s.minted, value := client } }
        some { s.set i (.resume body cause fresh) with
          slot := some fresh, writer := none, minted := s.minted + 1 }
      | .error e => some { s.set i (.done (.error e)) with writer := none }
    | _ => none
  | .finish i outcome =>
    match s.tasks i with
    | .running body cached =>
      match outcome with
      | .ok v => some (s.set i (.done (.ok v)))
      | .error err =>
        if retries policy s.now cached err then some (s.set i (.waiting body (.failed cached)))
        else some (s.set i (.done (.error err)))
    | .retrying _ _ => some (s.set i (.done outcome))
    | _ => none
  | .cancel i =>
    match s.tasks i with
    | .idle | .done _ | .cancelled => none
    | .attesting _ _ => some { s.set i .cancelled with writer := none }
    | _ => some (s.set i .cancelled)

/-- `Moves policy s a s'`: everything a step can do, and when. -/
inductive Moves (policy : ReattestPolicy) (s : State C B T) : Action C B T → State C B T → Prop
  | tick (d : Nat) : Moves policy s (.tick d) { s with now := s.now + d }
  | arrive {i : Nat} {body : B} : s.tasks i = .idle →
      Moves policy s (.arrive i body) (s.set i (.reading body))
  | hit {i : Nat} {body : B} {c : Cached C} : s.tasks i = .reading body → s.writer = none →
      s.slot = some c → s.now - c.attestedAt < policy.reattestAfter →
      Moves policy s (.read i) (s.set i (.running body c))
  | miss {i : Nat} {body : B} : s.tasks i = .reading body → s.writer = none →
      (∀ c, s.slot = some c → policy.reattestAfter ≤ s.now - c.attestedAt) →
      Moves policy s (.read i) (s.set i (.waiting body (.aged s.slot)))
  | found {i : Nat} {body : B} {cause : Cause C} {current : Cached C} :
      s.tasks i = .waiting body cause → s.writer = none →
      replacement s.slot cause.stale = some current →
      Moves policy s (.acquire i) (s.set i (.resume body cause current))
  | clear {i : Nat} {body : B} {cause : Cause C} : s.tasks i = .waiting body cause →
      s.writer = none → replacement s.slot cause.stale = none →
      Moves policy s (.acquire i)
        { s.set i (.attesting body cause) with slot := none, writer := some i }
  | store {i : Nat} {body : B} {cause : Cause C} {client : C} :
      s.tasks i = .attesting body cause →
      Moves policy s (.attested i (.ok client))
        { s.set i (.resume body cause ⟨s.now, ⟨s.minted, client⟩⟩) with
          slot := some ⟨s.now, ⟨s.minted, client⟩⟩, writer := none, minted := s.minted + 1 }
  | fail {i : Nat} {body : B} {cause : Cause C} {e : Error} : s.tasks i = .attesting body cause →
      Moves policy s (.attested i (.error e)) { s.set i (.done (.error e)) with writer := none }
  | fault {i : Nat} {body : B} {cached : Cached C} {err : Error} :
      s.tasks i = .running body cached → retries policy s.now cached err = true →
      Moves policy s (.finish i (.error err)) (s.set i (.waiting body (.failed cached)))
  | answer {i : Nat} {body : B} {cached : Cached C} {outcome : Result T} :
      s.tasks i = .running body cached →
      (∀ err, outcome = .error err → retries policy s.now cached err = false) →
      Moves policy s (.finish i outcome) (s.set i (.done outcome))
  | conclude {i : Nat} {body : B} {fresh : Cached C} {outcome : Result T} :
      s.tasks i = .retrying body fresh →
      Moves policy s (.finish i outcome) (s.set i (.done outcome))
  | drop {i : Nat} : (s.tasks i).attests = false →
      Moves policy s (.cancel i) (s.set i .cancelled)
  | abandon {i : Nat} {body : B} {cause : Cause C} : s.tasks i = .attesting body cause →
      Moves policy s (.cancel i) { s.set i .cancelled with writer := none }

variable {policy : ReattestPolicy}

theorem step_moves {s s' : State C B T} {a : Action C B T} (taken : step policy s a = some s') :
    Moves policy s a s' := by
  cases a with
  | tick d =>
    cases taken
    exact .tick d
  | arrive i body =>
    simp only [step] at taken
    split at taken <;> cases taken
    exact .arrive ‹_›
  | read i =>
    simp only [step] at taken
    split at taken
    · split at taken
      · rename_i c slot
        split at taken <;> cases taken
        · exact .hit ‹_› ‹_› slot ‹_›
        · rw [← slot]
          refine .miss ‹_› ‹_› ?_
          intro d same
          rw [slot] at same
          cases same
          omega
      · rename_i slot
        cases taken
        rw [← slot]
        refine .miss ‹_› ‹_› ?_
        intro d same
        rw [slot] at same
        cases same
    · cases taken
  | acquire i =>
    simp only [step] at taken
    split at taken
    · split at taken <;> cases taken
      · exact .found ‹_› ‹_› ‹_›
      · exact .clear ‹_› ‹_› ‹_›
    · cases taken
  | attested i outcome =>
    simp only [step] at taken
    split at taken
    · split at taken <;> cases taken
      · exact .store ‹_›
      · exact .fail ‹_›
    · cases taken
  | finish i outcome =>
    simp only [step] at taken
    split at taken
    · split at taken
      · cases taken
        exact .answer ‹_› (fun err same => by cases same)
      · split at taken <;> cases taken
        · exact .fault ‹_› ‹_›
        · refine .answer ‹_› ?_
          intro err same
          cases same
          exact Bool.eq_false_iff.mpr ‹_›
    · cases taken
      exact .conclude ‹_›
    · cases taken
  | cancel i =>
    simp only [step] at taken
    split at taken <;> cases taken
    · exact .abandon ‹_›
    · refine .drop ?_
      cases held : s.tasks i <;> simp_all [Task.attests]

end PpqTee.Proxy
