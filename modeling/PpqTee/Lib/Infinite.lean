import PpqTee.Lib.Transition
import Mathlib.Data.Nat.Find

/-! Infinite runs of a partial deterministic step function, and what must happen along them: a
property that holds until some action is taken, and a goal that is reached because a measure cannot
fall for ever. -/

namespace Transition

variable {σ α : Type} {step : σ → α → Option σ} {start : σ}

/-- A run that never ends. -/
structure Infinite (step : σ → α → Option σ) (start : σ) where
  state : Nat → σ
  action : Nat → α
  begins : state 0 = start
  steps : ∀ n, step (state n) (action n) = some (state (n + 1))

namespace Infinite

/-- The first `n` actions, each with the state it is taken in. -/
def trace (run : Infinite step start) (n : Nat) : List (σ × α) :=
  (List.range n).map fun k => (run.state k, run.action k)

theorem mem_trace {run : Infinite step start} {n : Nat} {s : σ} {a : α} :
    (s, a) ∈ run.trace n ↔ ∃ k < n, run.state k = s ∧ run.action k = a := by
  unfold trace
  simp only [List.mem_map, List.mem_range, Prod.mk.injEq]

theorem trace_succ (run : Infinite step start) (n : Nat) :
    run.trace (n + 1) = run.trace n ++ [(run.state n, run.action n)] := by
  unfold trace
  rw [List.range_succ, List.map_append, List.map_singleton]

/-- Each of its beginnings is a run. -/
theorem finite (run : Infinite step start) (n : Nat) : Run step start (run.trace n) (run.state n) := by
  induction n with
  | zero =>
    show Run step start [] (run.state 0)
    rw [run.begins]
    exact .start
  | succ n ih =>
    rw [trace_succ]
    exact ih.next (run.steps n)

/-- What holds now, and is kept by every action but those of one kind, holds when the first of these
is taken. -/
theorem holds_until (run : Infinite step start) (Holds : σ → Prop) (Ends : α → Prop) {n : Nat}
    (now : Holds (run.state n))
    (kept : ∀ m, Holds (run.state m) → ¬ Ends (run.action m) → Holds (run.state (m + 1)))
    (ends : ∃ m ≥ n, Ends (run.action m)) :
    ∃ m ≥ n, Holds (run.state m) ∧ Ends (run.action m) := by
  classical
  -- the first of them: up to there each action keeps it
  have found : ∃ d, Ends (run.action (n + d)) := by
    obtain ⟨m, later, ended⟩ := ends
    refine ⟨m - n, ?_⟩
    rwa [Nat.add_sub_cancel' later]
  have before : ∀ d, d ≤ Nat.find found → Holds (run.state (n + d)) := by
    intro d bounded
    induction d with
    | zero => exact now
    | succ d ih => exact kept (n + d) (ih (by omega)) (Nat.find_min found (by omega))
  exact ⟨n + Nat.find found, Nat.le_add_right _ _, before _ (Nat.le_refl _), Nat.find_spec found⟩

/-- What is never ended holds for ever. -/
theorem holds_always (run : Infinite step start) (Holds : σ → Prop) (Ends : α → Prop) {n : Nat}
    (now : Holds (run.state n))
    (kept : ∀ m, Holds (run.state m) → ¬ Ends (run.action m) → Holds (run.state (m + 1)))
    (never : ∀ m ≥ n, ¬ Ends (run.action m)) : ∀ m ≥ n, Holds (run.state m) := by
  intro m later
  induction m, later using Nat.le_induction with
  | base => exact now
  | succ m later ih => exact kept m ih (never m later)

/-- A goal is reached if, as long as it is not, a measure falls sooner or later. -/
theorem reaches (run : Infinite step start) (Inv Goal : σ → Prop) (measure : σ → Nat)
    (progress : ∀ n, Inv (run.state n) → Goal (run.state n) ∨ ∃ m ≥ n, Inv (run.state m) ∧
      measure (run.state m) < measure (run.state n)) (n : Nat) (now : Inv (run.state n)) :
    ∃ m ≥ n, Goal (run.state m) := by
  induction size : measure (run.state n) using Nat.strong_induction_on generalizing n with
  | h size ih =>
    rcases progress n now with here | ⟨m, later, still, less⟩
    · exact ⟨n, Nat.le_refl _, here⟩
    · rw [size] at less
      obtain ⟨k, after, goal⟩ := ih _ less m still rfl
      exact ⟨k, Nat.le_trans later after, goal⟩

end Infinite

end Transition
