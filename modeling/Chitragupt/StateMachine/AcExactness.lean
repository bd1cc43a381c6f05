import Mathlib.Data.List.Forall2
import Chitragupt.StateMachine.AcResult

/-!
# What a result says about its checks

A result lists the checks in order, its gaps are the unmet ones, and the three statuses
divide them.  More met fields and longer ledgers never close the gate again.
-/

namespace Chitragupt

namespace AcCheck

/-- The same criterion, with its field possibly met in the meantime. -/
structure Advances (earlier later : AcCheck) : Prop where
  id : later.id = earlier.id
  description : later.description = earlier.description
  question : later.question = earlier.question
  fieldMet : earlier.fieldMet = true → later.fieldMet = true

namespace Advances

variable {earlier later : AcCheck} {acMet acMet' acWaived acWaived' : List String}

theorem gap (advances : Advances earlier later) : later.gap = earlier.gap := by
  simp only [AcCheck.gap, advances.id, advances.description, advances.question]

/-- A check that is unmet with the longer ledgers was unmet before. -/
theorem unmet (advances : Advances earlier later) (met : acMet ⊆ acMet')
    (waived : acWaived ⊆ acWaived') (unmet : later.status acMet' acWaived' = .unmet) :
    earlier.status acMet acWaived = .unmet := by
  obtain ⟨field, notMet, notWaived⟩ := status_eq_unmet.mp unmet
  rw [advances.id] at notMet notWaived
  refine status_eq_unmet.mpr ⟨?_, fun member => notMet (met member),
    fun member => notWaived (waived member)⟩
  by_contra earlierMet
  rw [advances.fieldMet (Bool.not_eq_false _ ▸ earlierMet)] at field
  cases field

end Advances

end AcCheck

namespace AcResult

def waivedCount (result : AcResult) : Nat :=
  (result.criteria.filter (·.status == .waived)).length

/-- The gap of a criterion, with the question of its check. -/
def gapOf (criterion : AcCriterion) (check : AcCheck) : AcGap where
  criterionId := criterion.id
  description := criterion.description
  suggestedQuestion := check.question

/-- The unmet criteria of a result as gaps, in order, each with the question of the check in
its place. -/
def unmetGaps (result : AcResult) (checks : List AcCheck) : List AcGap :=
  ((result.criteria.zip checks).filter (·.1.status == .unmet)).map fun (criterion, check) =>
    gapOf criterion check

/-- Every criterion has one of the three statuses. -/
theorem counts_add (result : AcResult) :
    result.metCount + result.waivedCount + result.unmetCount = result.criteria.length := by
  simp only [metCount, waivedCount, unmetCount]
  induction result.criteria with
  | nil => rfl
  | cons criterion criteria ih =>
      cases status : criterion.status <;>
        simp only [List.filter_cons, status, beq_self_eq_true, reduceCtorEq, beq_iff_eq,
          if_true, if_false, List.length_cons] <;> omega

theorem fromChecks_gaps_eq_unmetGaps (checks : List AcCheck) (acMet acWaived : List String) :
    (fromChecks checks acMet acWaived).gaps =
      (fromChecks checks acMet acWaived).unmetGaps checks := by
  rw [unmetGaps, fromChecks_gaps, fromChecks_criteria]
  induction checks with
  | nil => rfl
  | cons check checks ih =>
      by_cases unmet : check.status acMet acWaived = .unmet
      · simpa [unmet, AcCheck.criterion, AcCheck.gap, gapOf] using ih
      · simpa [unmet, AcCheck.criterion] using ih

theorem length_gaps_fromChecks (checks : List AcCheck) (acMet acWaived : List String) :
    (fromChecks checks acMet acWaived).gaps.length =
      (fromChecks checks acMet acWaived).unmetCount := by
  rw [unmetCount, fromChecks_gaps, fromChecks_criteria, List.length_map, List.filter_map,
    List.length_map]
  congr 1

theorem gaps_sublist_of_advances {checks checks' : List AcCheck}
    {acMet acMet' acWaived acWaived' : List String}
    (advances : List.Forall₂ AcCheck.Advances checks checks') (met : acMet ⊆ acMet')
    (waived : acWaived ⊆ acWaived') :
    (fromChecks checks' acMet' acWaived').gaps.Sublist
      (fromChecks checks acMet acWaived).gaps := by
  simp only [fromChecks_gaps]
  induction advances with
  | nil => exact List.Sublist.refl _
  | @cons check check' checks checks' advances _ ih =>
      by_cases unmet' : check'.status acMet' acWaived' = .unmet
      · have unmet := advances.unmet met waived unmet'
        simpa [unmet, unmet', advances.gap] using ih
      · by_cases unmet : check.status acMet acWaived = .unmet
        · simpa [unmet, unmet'] using ih.cons check.gap
        · simpa [unmet, unmet'] using ih

theorem ready_of_advances {checks checks' : List AcCheck}
    {acMet acMet' acWaived acWaived' : List String}
    (advances : List.Forall₂ AcCheck.Advances checks checks') (met : acMet ⊆ acMet')
    (waived : acWaived ⊆ acWaived')
    (ready : (fromChecks checks acMet acWaived).transitionReady = true) :
    (fromChecks checks' acMet' acWaived').transitionReady = true := by
  rw [fromChecks_ready_iff] at ready ⊢
  induction advances with
  | nil => exact fun _ member => nomatch member
  | @cons check check' checks checks' advances _ ih =>
      rw [List.forall_mem_cons] at ready ⊢
      refine ⟨?_, ih ready.2⟩
      rcases ready.1 with optional | notUnmet
      · exact .inl (advances.id ▸ optional)
      · exact .inr fun unmet => notUnmet (advances.unmet met waived unmet)

/-- The result of any checks keeps their ids and order, and its gaps are its unmet criteria.
The transition is ready when all of these are optional, and stays ready, without a new gap,
when fields get met or the ledgers grow. -/
theorem fromChecks_exact (checks : List AcCheck) (acMet acWaived : List String) :
    (fromChecks checks acMet acWaived).criteria.map (fun c => (c.id, c.description)) =
        checks.map (fun check => (check.id, check.description)) ∧
      (fromChecks checks acMet acWaived).gaps =
        (fromChecks checks acMet acWaived).unmetGaps checks ∧
      (fromChecks checks acMet acWaived).gaps.length =
        (fromChecks checks acMet acWaived).unmetCount ∧
      (fromChecks checks acMet acWaived).metCount +
          (fromChecks checks acMet acWaived).waivedCount +
          (fromChecks checks acMet acWaived).unmetCount = checks.length ∧
      ((fromChecks checks acMet acWaived).transitionReady = true ↔
        ∀ c ∈ (fromChecks checks acMet acWaived).criteria, c.status = .unmet →
          isOptional c.id = true) ∧
      ∀ checks' acMet' acWaived', List.Forall₂ AcCheck.Advances checks checks' →
        acMet ⊆ acMet' → acWaived ⊆ acWaived' →
        ((fromChecks checks acMet acWaived).transitionReady = true →
          (fromChecks checks' acMet' acWaived').transitionReady = true) ∧
        (fromChecks checks' acMet' acWaived').gaps.Sublist
          (fromChecks checks acMet acWaived).gaps := by
  refine ⟨?_, fromChecks_gaps_eq_unmetGaps checks acMet acWaived,
    length_gaps_fromChecks checks acMet acWaived, ?_, ?_,
    fun checks' acMet' acWaived' advances met waived =>
      ⟨ready_of_advances advances met waived, gaps_sublist_of_advances advances met waived⟩⟩
  · rw [fromChecks_criteria, List.map_map]
    rfl
  · rw [counts_add, fromChecks_criteria, List.length_map]
  · rw [fromChecks_ready_iff, fromChecks_criteria, List.forall_mem_map]
    refine forall₂_congr fun check _ => ?_
    rw [or_comm, ← imp_iff_not_or]
    rfl

end AcResult

end Chitragupt
