import Mathlib.Algebra.Group.Basic
import Mathlib.Data.List.Basic

/-!
# Running totals

The running totals of a list of amounts, from an opening balance.  A reader who takes
them for the amounts is right only when nothing but the last amount counts.
-/

namespace RunningTotal

variable {M : Type*} [AddMonoid M]

/-- The balance after each amount. -/
def totals (opening : M) : List M → List M
  | [] => []
  | amount :: rest => (opening + amount) :: totals (opening + amount) rest

@[simp] theorem totals_nil (opening : M) : totals opening [] = [] := rfl

@[simp] theorem totals_cons (opening amount : M) (rest : List M) :
    totals opening (amount :: rest) =
      (opening + amount) :: totals (opening + amount) rest := rfl

/-- The totals are the amounts exactly when the opening balance and all amounts but the
last are zero. -/
theorem totals_eq_self_iff [IsRightCancelAdd M] {opening : M} {amounts : List M} :
    totals opening amounts = amounts ↔
      amounts = [] ∨ (opening = 0 ∧ ∀ amount ∈ amounts.dropLast, amount = 0) := by
  induction amounts generalizing opening with
  | nil => simp
  | cons amount rest ih =>
      rw [totals_cons, List.cons.injEq, add_eq_right, ih]
      cases rest with
      | nil => simp
      | cons next rest =>
          simp only [reduceCtorEq, false_or, List.dropLast_cons_cons, List.forall_mem_cons]
          constructor
          · rintro ⟨rfl, zero, others⟩
            exact ⟨rfl, by rwa [zero_add] at zero, others⟩
          · rintro ⟨rfl, rfl, others⟩
            exact ⟨rfl, zero_add 0, others⟩

end RunningTotal
