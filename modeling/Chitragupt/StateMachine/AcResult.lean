import Chitragupt.Lib.LetterCase

/-!
# Results of acceptance-criteria checks

`AcResult.fromChecks` combines the field check of each criterion with the two
ledgers of explicit updates.  The loop of the source is a left fold; the lemmas
below give the criteria and the gaps one check at a time.
-/

namespace Chitragupt

inductive AcStatus where
  | met
  | unmet
  | waived
  deriving DecidableEq, Repr

structure AcCriterion where
  id : String
  description : String
  status : AcStatus
  deriving DecidableEq, Repr

structure AcGap where
  criterionId : String
  description : String
  suggestedQuestion : String
  deriving DecidableEq, Repr

structure AcResult where
  criteria : List AcCriterion
  gaps : List AcGap
  transitionReady : Bool
  deriving DecidableEq, Repr

/-- A criterion with its texts and the result of its field check. -/
structure AcCheck where
  id : String
  description : String
  question : String
  fieldMet : Bool
  deriving DecidableEq, Repr

/-- Optional criteria carry `-U` in their id. -/
def isOptional (id : String) : Bool := (Text.ofString id).contains (.ofString "-U")

namespace AcCheck

/-- An explicit update or the field makes a criterion met; otherwise a waiver
counts. -/
def status (check : AcCheck) (acMet acWaived : List String) : AcStatus :=
  let explicitlyMet := acMet.any (· == check.id)
  let waived := acWaived.any (· == check.id)
  if explicitlyMet || check.fieldMet then .met
  else if waived then .waived
  else .unmet

def criterion (check : AcCheck) (acMet acWaived : List String) : AcCriterion where
  id := check.id
  description := check.description
  status := check.status acMet acWaived

def gap (check : AcCheck) : AcGap where
  criterionId := check.id
  description := check.description
  suggestedQuestion := check.question

theorem status_eq_unmet {check : AcCheck} {acMet acWaived : List String} :
    check.status acMet acWaived = .unmet ↔
      check.fieldMet = false ∧ check.id ∉ acMet ∧ check.id ∉ acWaived := by
  simp only [status, Bool.or_eq_true, List.any_eq_true, beq_iff_eq, exists_eq_right]
  by_cases met : check.id ∈ acMet <;> by_cases waived : check.id ∈ acWaived <;>
    cases field : check.fieldMet <;> simp [met, waived]

end AcCheck

namespace AcResult

/-- One round of the loop over the checks. -/
def push (acMet acWaived : List String) (built : List AcCriterion × List AcGap)
    (check : AcCheck) : List AcCriterion × List AcGap :=
  let status := check.status acMet acWaived
  let gaps := if status = .unmet then built.2 ++ [check.gap] else built.2
  (built.1 ++ [{ id := check.id, description := check.description, status }], gaps)

/-- A criterion that does not stand in the way of a transition. -/
def passes (criterion : AcCriterion) : Bool :=
  isOptional criterion.id || criterion.status == .met || criterion.status == .waived

def fromChecks (checks : List AcCheck) (acMet acWaived : List String) : AcResult :=
  let (criteria, gaps) := checks.foldl (push acMet acWaived) ([], [])
  { criteria, gaps, transitionReady := criteria.all passes }

def metCount (result : AcResult) : Nat :=
  (result.criteria.filter (·.status == .met)).length

def unmetCount (result : AcResult) : Nat :=
  (result.criteria.filter (·.status == .unmet)).length

private theorem foldl_push (acMet acWaived : List String) (checks : List AcCheck)
    (built : List AcCriterion × List AcGap) :
    checks.foldl (push acMet acWaived) built =
      (built.1 ++ checks.map (·.criterion acMet acWaived),
        built.2 ++ (checks.filter (·.status acMet acWaived = .unmet)).map (·.gap)) := by
  induction checks generalizing built with
  | nil => simp
  | cons check checks ih =>
      rw [List.foldl_cons, ih]
      by_cases unmet : check.status acMet acWaived = .unmet <;>
        simp [push, unmet, AcCheck.criterion]

@[simp] theorem fromChecks_criteria (checks : List AcCheck) (acMet acWaived : List String) :
    (fromChecks checks acMet acWaived).criteria =
      checks.map (·.criterion acMet acWaived) := by
  simp [fromChecks, foldl_push]

@[simp] theorem fromChecks_gaps (checks : List AcCheck) (acMet acWaived : List String) :
    (fromChecks checks acMet acWaived).gaps =
      (checks.filter (·.status acMet acWaived = .unmet)).map (·.gap) := by
  simp [fromChecks, foldl_push]

theorem passes_criterion {check : AcCheck} {acMet acWaived : List String} :
    passes (check.criterion acMet acWaived) = true ↔
      isOptional check.id = true ∨ check.status acMet acWaived ≠ .unmet := by
  simp only [passes, AcCheck.criterion]
  cases check.status acMet acWaived <;> simp

/-- The transition is ready when every unmet criterion is optional. -/
theorem fromChecks_ready_iff {checks : List AcCheck} {acMet acWaived : List String} :
    (fromChecks checks acMet acWaived).transitionReady = true ↔
      ∀ check ∈ checks, isOptional check.id = true ∨
        check.status acMet acWaived ≠ .unmet := by
  have unfolded : (fromChecks checks acMet acWaived).transitionReady =
      (checks.map (·.criterion acMet acWaived)).all passes := by
    simp [fromChecks, foldl_push]
  rw [unfolded, List.all_eq_true, List.forall_mem_map]
  simp only [passes_criterion]

end AcResult

end Chitragupt
