import Mathlib.Algebra.BigOperators.Group.Finset.Piecewise
import Mathlib.Data.Fintype.Basic

/-!
# Logs of contributions

Parties add amounts to a shared total.  The log keeps each amount with its contributor,
in the order in which they took effect, and the totals of any group of contributors can
be read off it.
-/

namespace Contributions

section Amounts

variable {ι M : Type*} (selected : ι → Prop) [DecidablePred selected]

/-- The amounts of the selected contributors, in order. -/
def amounts : List (ι × M) → List M
  | [] => []
  | (contributor, amount) :: log =>
      if selected contributor then amount :: amounts log else amounts log

@[simp] theorem amounts_nil : amounts selected ([] : List (ι × M)) = [] := rfl

theorem amounts_append (earlier later : List (ι × M)) :
    amounts selected (earlier ++ later) =
      amounts selected earlier ++ amounts selected later := by
  induction earlier with
  | nil => rfl
  | cons entry earlier ih =>
      rw [List.cons_append, amounts, amounts, ih]
      split <;> rfl

/-- One more contribution is the last amount of the groups of its contributor. -/
theorem amounts_concat (log : List (ι × M)) (contributor : ι) (amount : M) :
    amounts selected (log ++ [(contributor, amount)]) =
      if selected contributor then amounts selected log ++ [amount]
      else amounts selected log := by
  rw [amounts_append, amounts, amounts_nil]
  split
  · rfl
  · rw [List.append_nil]

theorem amounts_take_append_drop (count : ℕ) (log : List (ι × M)) :
    amounts selected (log.take count) ++ amounts selected (log.drop count) =
      amounts selected log := by
  rw [← amounts_append, List.take_append_drop]

end Amounts

variable {ι M : Type*} [AddCommMonoid M]

/-- What the selected contributors have added. -/
def total (selected : ι → Prop) [DecidablePred selected] : List (ι × M) → M
  | [] => 0
  | (contributor, amount) :: log =>
      (if selected contributor then amount else 0) + total selected log

variable (selected : ι → Prop) [DecidablePred selected]

/-- The total of a group is the sum of its amounts. -/
theorem total_eq_sum_amounts (log : List (ι × M)) :
    total selected log = (amounts selected log).sum := by
  induction log with
  | nil => rfl
  | cons entry log ih =>
      rw [total, amounts, ih]
      split
      · rw [List.sum_cons]
      · rw [zero_add]

@[simp] theorem total_nil : total selected ([] : List (ι × M)) = 0 := rfl

theorem total_append (earlier later : List (ι × M)) :
    total selected (earlier ++ later) = total selected earlier + total selected later := by
  induction earlier with
  | nil => rw [List.nil_append, total_nil, zero_add]
  | cons entry earlier ih => rw [List.cons_append, total, total, ih, add_assoc]

/-- One more contribution counts for the groups of its contributor. -/
@[simp] theorem total_concat (log : List (ι × M)) (contributor : ι) (amount : M) :
    total selected (log ++ [(contributor, amount)]) =
      total selected log + if selected contributor then amount else 0 := by
  rw [total_append, total, total_nil, add_zero]

theorem total_take_add_drop (count : ℕ) (log : List (ι × M)) :
    total selected (log.take count) + total selected (log.drop count) =
      total selected log := by
  rw [← total_append, List.take_append_drop]

variable [DecidableEq ι]

/-- A group without one of its members. -/
theorem total_eq_own_add_others {member : ι} (inside : selected member)
    (log : List (ι × M)) :
    total selected log = total (· = member) log +
      total (fun other => other ≠ member ∧ selected other) log := by
  induction log with
  | nil => simp
  | cons entry log ih =>
      rcases entry with ⟨contributor, amount⟩
      rw [total, total, total, ih]
      by_cases same : contributor = member
      · subst same
        simp [inside, add_assoc]
      · simp [same, add_left_comm]

/-- A group adds what its members add. -/
theorem total_eq_sum [Fintype ι] (log : List (ι × M)) :
    total selected log =
      ∑ member ∈ Finset.univ.filter selected, total (· = member) log := by
  induction log with
  | nil => simp
  | cons entry log ih =>
      rcases entry with ⟨contributor, amount⟩
      simp only [total]
      rw [Finset.sum_add_distrib, Finset.sum_ite_eq, ih]
      simp

end Contributions
