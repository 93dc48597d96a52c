import PpqTee.Lib.Transition

/-! Forward simulation between two step functions: the steps of the one that are observed are
matched by steps of the other that are observed as the same, and the rest may be matched by
nothing. -/

namespace Transition

variable {σ τ α β ω : Type}

/-- What is seen of a run, in order. -/
def observations (observe : σ × α → Option ω) (trace : List (σ × α)) : List ω :=
  trace.filterMap observe

theorem observations_snoc (observe : σ × α → Option ω) (trace : List (σ × α)) (event : σ × α) :
    observations observe (trace ++ [event]) =
      observations observe trace ++ (observe event).toList := by
  simp only [observations, List.filterMap_append]
  cases observed : observe event <;> simp [observed]

/-- Related states stay related, each concrete step being a step of the specification that is
observed alike, or none at all. -/
def Simulates (step : σ → α → Option σ) (spec : τ → β → Option τ) (observe : σ × α → Option ω)
    (observeSpec : τ × β → Option ω) (Related : σ → τ → Prop) : Prop :=
  ∀ s t a s', Related s t → step s a = some s' →
    (observe (s, a) = none ∧ Related s' t) ∨
    ∃ b t', spec t b = some t' ∧ Related s' t' ∧ observeSpec (t, b) = observe (s, a)

variable {step : σ → α → Option σ} {spec : τ → β → Option τ} {observe : σ × α → Option ω}
  {observeSpec : τ × β → Option ω} {Related : σ → τ → Prop}

/-- Every run is a run of the specification, as far as it can be seen. -/
theorem Simulates.run (simulates : Simulates step spec observe observeSpec Related) {start s : σ}
    {init : τ} {trace : List (σ × α)} (initial : Related start init)
    (run : Run step start trace s) :
    ∃ matched t, Run spec init matched t ∧ Related s t ∧
      observations observeSpec matched = observations observe trace := by
  induction run with
  | start => exact ⟨[], init, .start, initial, rfl⟩
  | @next trace s s' a _ taken ih =>
    obtain ⟨matched, t, follows, related, same⟩ := ih
    rcases simulates s t a s' related taken with ⟨silent, kept⟩ | ⟨b, t', moves, related', alike⟩
    · refine ⟨matched, t, follows, kept, ?_⟩
      rw [observations_snoc, silent, same, Option.toList_none, List.append_nil]
    · refine ⟨matched ++ [(t, b)], t', follows.next moves, related', ?_⟩
      rw [observations_snoc, observations_snoc, alike, same]

end Transition
