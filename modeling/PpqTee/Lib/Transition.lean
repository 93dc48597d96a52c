import Mathlib.Data.List.Basic

/-! Runs of a partial deterministic step function. A run keeps, for every action
taken, the state it was taken in, so a property of a run can speak about all its
states and about the order of its actions. -/

namespace Transition

variable {σ α : Type}

/-- `Run step start trace s`: the actions of `trace` lead from `start` to `s`. -/
inductive Run (step : σ → α → Option σ) (start : σ) : List (σ × α) → σ → Prop
  | start : Run step start [] start
  | next {trace : List (σ × α)} {s s' : σ} {a : α} :
      Run step start trace s → step s a = some s' → Run step start (trace ++ [(s, a)]) s'

/-- Taking the actions one after another, up to the first that is not enabled. -/
def execute (step : σ → α → Option σ) : σ → List α → List (σ × α) × σ
  | s, [] => ([], s)
  | s, a :: rest =>
    match step s a with
    | some s' => ((s, a) :: (execute step s' rest).1, (execute step s' rest).2)
    | none => ([], s)

variable {step : σ → α → Option σ} {start s : σ} {trace : List (σ × α)}

/-- An invariant may speak about the trace so far as well as about the state. -/
theorem Run.invariant {Inv : List (σ × α) → σ → Prop} (run : Run step start trace s)
    (initial : Inv [] start)
    (preserved : ∀ trace s a s', Run step start trace s → Inv trace s →
      step s a = some s' → Inv (trace ++ [(s, a)]) s') : Inv trace s := by
  induction run with
  | start => exact initial
  | @next trace s s' a earlier taken ih => exact preserved trace s a s' earlier ih taken

theorem Run.append {later : List (σ × α)} {s' : σ} (run : Run step start trace s)
    (rest : Run step s later s') : Run step start (trace ++ later) s' := by
  induction rest with
  | start => simpa using run
  | next _ taken ih =>
    rw [← List.append_assoc]
    exact ih.next taken

/-- Every action of a run was enabled in the state the run had then reached, and the
actions after it are a run from its outcome. -/
theorem Run.split {before after : List (σ × α)} {m : σ} {a : α}
    (run : Run step start (before ++ (m, a) :: after) s) :
    ∃ m', Run step start before m ∧ step m a = some m' ∧ Run step m' after s := by
  generalize whole : before ++ (m, a) :: after = all at run
  induction run generalizing after with
  | start => simp at whole
  | @next trace s s' b earlier taken ih =>
    rcases List.eq_nil_or_concat after with none | ⟨front, last, rfl⟩
    · subst none
      obtain ⟨rfl, same⟩ := List.append_inj' whole (by simp)
      obtain ⟨rfl, rfl⟩ := by simpa using same
      exact ⟨s', earlier, taken, .start⟩
    · rw [List.concat_eq_append, ← List.cons_append, ← List.append_assoc] at whole
      obtain ⟨front_eq, same⟩ := List.append_inj' whole (by simp)
      obtain ⟨m', reached, first, rest⟩ := ih front_eq
      obtain rfl : last = (s, b) := by simpa using same
      rw [List.concat_eq_append]
      exact ⟨m', reached, first, rest.next taken⟩

/-- A state that an action of the run was taken in is reached by a run of its own. -/
theorem Run.of_mem {m : σ} {a : α} (run : Run step start trace s) (member : (m, a) ∈ trace) :
    ∃ before m', Run step start before m ∧ step m a = some m' := by
  obtain ⟨before, after, rfl⟩ := List.append_of_mem member
  obtain ⟨m', reached, taken, _⟩ := run.split
  exact ⟨before, m', reached, taken⟩

/-- To order a whole run it is enough to order each action after the earlier ones. -/
theorem Run.pairwise {R : σ × α → σ × α → Prop} (run : Run step start trace s)
    (ordered : ∀ before m a after, trace = before ++ (m, a) :: after → Run step start before m →
      ∀ entry ∈ before, R entry (m, a)) : trace.Pairwise R := by
  induction run with
  | start => exact List.Pairwise.nil
  | @next trace s s' a earlier taken ih =>
    rw [List.pairwise_append]
    refine ⟨?_, List.pairwise_singleton _ _, ?_⟩
    · apply ih
      intro before m b after whole
      exact ordered before m b (after ++ [(s, a)]) (by rw [whole]; simp)
    · intro entry member last same
      rw [List.mem_singleton.mp same]
      exact ordered trace s a [] rfl earlier entry member

/-- Steps of one kind are few if each of them uses up some of a measure that no step adds to. -/
theorem Run.countP_le (run : Run step start trace s) (measure : σ → Nat) (counts : σ × α → Bool)
    (uses : ∀ s a s', step s a = some s' →
      measure s' + (if counts (s, a) then 1 else 0) ≤ measure s) :
    trace.countP counts + measure s ≤ measure start := by
  induction run with
  | start => simp
  | @next trace s s' a _ taken ih =>
    have used := uses s a s' taken
    rw [List.countP_append, List.countP_singleton]
    omega

theorem Run.execute (step : σ → α → Option σ) (start : σ) (actions : List α) :
    Run step start (execute step start actions).1 (execute step start actions).2 := by
  induction actions generalizing start with
  | nil => exact .start
  | cons a rest ih =>
    unfold Transition.execute
    cases taken : step start a with
    | none => exact .start
    | some s' => exact (Run.start.next taken).append (ih s')

end Transition
