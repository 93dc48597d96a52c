import Mathlib.Data.List.Basic

/-! Lists split at every occurrence of a separator. -/

namespace Splitting

variable {α : Type} [DecidableEq α] {sep : α}

/-- Nothing to split, or a first part without the separator and the split of the rest. -/
theorem splitOn_cases (sep : α) (w : List α) :
    (sep ∉ w ∧ w.splitOn sep = [w]) ∨
    ∃ front back, w = front ++ sep :: back ∧ sep ∉ front ∧
      w.splitOn sep = front :: back.splitOn sep := by
  by_cases member : sep ∈ w
  · obtain ⟨front, back, whole, first⟩ := List.eq_append_cons_of_mem member
    refine .inr ⟨front, back, whole, first, ?_⟩
    rw [whole, List.splitOn_append_cons_self_of_not_mem first]
  · exact .inl ⟨member, List.splitOn_eq_singleton member⟩

theorem splitOn_injective {v w : List α} (same : v.splitOn sep = w.splitOn sep) : v = w :=
  calc v = [sep].intercalate (v.splitOn sep) := (List.intercalate_splitOn sep).symm
    _ = [sep].intercalate (w.splitOn sep) := by rw [same]
    _ = w := List.intercalate_splitOn sep

theorem splitOn_cons_self (w : List α) : (sep :: w).splitOn sep = [] :: w.splitOn sep := by
  rw [List.splitOn_cons_eq_if_modifyHead, if_pos (by simp)]

theorem splitOn_cons_other {x : α} (other : x ≠ sep) (w : List α) :
    (x :: w).splitOn sep = (w.splitOn sep).modifyHead (List.cons x) := by
  rw [List.splitOn_cons_eq_if_modifyHead, if_neg (by simpa using other)]

/-- The parts have the elements of the list but the separator. -/
theorem forall_splitOn {p : α → Prop} {w : List α} :
    (∀ part ∈ w.splitOn sep, ∀ c ∈ part, p c) ↔ ∀ c ∈ w, c ≠ sep → p c := by
  induction w with
  | nil => simp
  | cons x w ih =>
    by_cases here : x = sep
    · subst here
      rw [splitOn_cons_self, List.forall_mem_cons, List.forall_mem_cons, ih]
      simp
    · rw [splitOn_cons_other here, List.forall_mem_cons, ← ih]
      obtain ⟨part, parts, whole⟩ := List.exists_cons_of_ne_nil (List.splitOn_ne_nil sep w)
      rw [whole, List.modifyHead_cons, List.forall_mem_cons, List.forall_mem_cons,
        List.forall_mem_cons, and_assoc]
      simp [here]

/-- A map that moves nothing to or from the separator can be applied to the parts. -/
theorem splitOn_map {f : α → α} (fixes : ∀ c, f c = sep ↔ c = sep) (w : List α) :
    (w.map f).splitOn sep = (w.splitOn sep).map (List.map f) := by
  induction w with
  | nil => rfl
  | cons x w ih =>
    rw [List.map_cons]
    by_cases here : x = sep
    · have there : f x = sep := (fixes x).mpr here
      rw [there, here, splitOn_cons_self, splitOn_cons_self, List.map_cons, ih]
      rfl
    · have there : f x ≠ sep := fun same => here ((fixes x).mp same)
      rw [splitOn_cons_other here, splitOn_cons_other there, ih]
      obtain ⟨part, parts, whole⟩ := List.exists_cons_of_ne_nil (List.splitOn_ne_nil sep w)
      rw [whole]
      rfl

end Splitting
