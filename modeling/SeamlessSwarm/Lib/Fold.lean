import Mathlib.Data.List.Basic
import Mathlib.Data.List.Induction

/-! The components of a folded state by the way the actions update them: a value that
the last action to give one leaves behind, a flag that is never lowered, and a
collection. Each is a function of what is read off the actions one by one, and where at
most one of them gives a value, nothing but the order of a collection depends on their
order. -/
namespace Fold

variable {σ α β : Type*} {step : σ → α → σ}

theorem ignored {actions : List α} (idle : ∀ a ∈ actions, ∀ s, step s a = s) (s : σ) :
    actions.foldl step s = s := by
  induction actions with
  | nil => rfl
  | cons a rest ih =>
    obtain ⟨head, tail⟩ := List.forall_mem_cons.mp idle
    rw [List.foldl_cons, head, ih tail]

section Last
variable {part : σ → β} {given : α → Option β}
  (updates : ∀ s a, part (step s a) = (given a).getD (part s))
include updates

theorem last_given (s : σ) (actions : List α) :
    part (actions.foldl step s) = (actions.filterMap given).getLast?.getD (part s) := by
  induction actions using List.reverseRecOn with
  | nil => rfl
  | append_singleton actions a ih =>
    rw [List.foldl_append, List.foldl_cons, List.foldl_nil, updates, ih, List.filterMap_append]
    cases value : given a with
    | none => simp only [List.filterMap_cons_none value, List.filterMap_nil, List.append_nil,
        Option.getD_none]
    | some b => simp only [List.filterMap_cons_some value, List.filterMap_nil,
        List.getLast?_concat, Option.getD_some]

theorem last_given_perm (s : σ) {actions actions' : List α} (same : actions.Perm actions')
    (single : (actions.filterMap given).length ≤ 1) :
    part (actions.foldl step s) = part (actions'.foldl step s) := by
  have values : actions.filterMap given = actions'.filterMap given := by
    have reordered := same.filterMap given
    match found : actions.filterMap given with
    | [] =>
      rw [found] at reordered
      exact reordered.nil_eq
    | [b] =>
      rw [found] at reordered
      exact (List.perm_singleton.mp reordered.symm).symm
    | _ :: _ :: _ =>
      rw [found] at single
      simp at single
  rw [last_given updates, last_given updates, values]

end Last

section Flag
variable {part : σ → Bool} {raises : α → Bool}
  (updates : ∀ s a, part (step s a) = (part s || raises a))
include updates

theorem raised (s : σ) (actions : List α) :
    part (actions.foldl step s) = (part s || actions.any raises) := by
  induction actions generalizing s with
  | nil => exact (Bool.or_false _).symm
  | cons a rest ih => rw [List.foldl_cons, ih, updates, List.any_cons, Bool.or_assoc]

theorem raised_perm (s : σ) {actions actions' : List α} (same : actions.Perm actions') :
    part (actions.foldl step s) = part (actions'.foldl step s) := by
  rw [raised updates, raised updates, same.any_eq]

end Flag

section Collection
variable {part : σ → List β} {given : α → Option β}
  (updates : ∀ s a, part (step s a) = part s ++ (given a).toList)
include updates

theorem collected (s : σ) (actions : List α) :
    part (actions.foldl step s) = part s ++ actions.filterMap given := by
  induction actions generalizing s with
  | nil => exact (List.append_nil _).symm
  | cons a rest ih =>
    rw [List.foldl_cons, ih, updates, List.append_assoc]
    cases value : given a with
    | none => rw [List.filterMap_cons_none value, Option.toList_none, List.nil_append]
    | some b => rw [List.filterMap_cons_some value, Option.toList_some, List.singleton_append]

end Collection
end Fold
