import Mathlib.Data.List.Basic

/-! Finite unfoldings of a generator: polled in a state, it stops, or hands out an item and goes
on in another state. -/

namespace Unfolding

variable {σ α : Type}

/-- `Yields turn s items`: polled from `s` until it stops, the generator hands out `items`. -/
inductive Yields (turn : σ → Option (α × σ)) : σ → List α → Prop
  | stop {s : σ} : turn s = none → Yields turn s []
  | next {s s' : σ} {item : α} {items : List α} :
      turn s = some (item, s') → Yields turn s' items → Yields turn s (item :: items)

variable {turn : σ → Option (α × σ)} {s : σ} {items : List α}

theorem Yields.unique {items' : List α} (yields : Yields turn s items)
    (again : Yields turn s items') : items = items' := by
  induction yields generalizing items' with
  | stop stops =>
    cases again with
    | stop _ => rfl
    | next turns _ => cases stops.symm.trans turns
  | next turns _ ih =>
    cases again with
    | stop stops => cases turns.symm.trans stops
    | next turns' later =>
      cases turns.symm.trans turns'
      rw [ih later]

/-- An item after which the generator always stops is the last one. -/
theorem Yields.last {Final : α → Prop} {item : α} {before after : List α}
    (yields : Yields turn s items)
    (stops : ∀ s item s', turn s = some (item, s') → Final item → turn s' = none)
    (whole : items = before ++ item :: after) (final : Final item) : after = [] := by
  induction yields generalizing before with
  | stop _ => simp at whole
  | @next s s' first items turns rest ih =>
    cases before with
    | nil =>
      obtain ⟨same, tail⟩ := List.cons.inj whole
      subst same tail
      cases rest with
      | stop _ => rfl
      | next turns' _ => cases (stops _ _ _ turns final).symm.trans turns'
    | cons _ before => exact ih (List.cons.inj whole).2

end Unfolding
