import Chitragupt.Pipeline.GapAnalyzer
import Chitragupt.Pipeline.SessionDocument
import Chitragupt.StateMachine.AcEvaluators

/-!
# The fallback table against the evaluators

The fallback looks at the two lists of criteria only, and it knows the first four
phases.  The evaluators also look at the fields of the session.  Both run on the same
session here, the fallback on its document.
-/

namespace Chitragupt

open Python (PyError Json)

namespace GapAnalyzer

/-- The table entry of a phase; the later phases have none. -/
def fallbacks (phase : SessionPhase) : List Fallback :=
  (phaseAcFallbacks.lookup phase.variantName).getD []

theorem fallbacksOf_toJson (phase : SessionPhase) :
    fallbacksOf phase.toJson = .ok (fallbacks phase) := by
  cases phase <;> rfl

/-- The criteria of the table that the session lists neither as met nor as waived. -/
def unlisted (state : SessionState) : List Fallback :=
  (fallbacks state.currentPhase).filter fun fallback =>
    fallback.criterionId ∉ state.acMet ∧ fallback.criterionId ∉ state.acWaived

theorem unmetOf_listJson (acMet acWaived : List String) (table : List Fallback) :
    unmetOf (listJson .ofString acMet) (listJson .ofString acWaived) table =
      .ok (table.filter fun fallback =>
        fallback.criterionId ∉ acMet ∧ fallback.criterionId ∉ acWaived) := by
  induction table with
  | nil => rfl
  | cons fallback rest ih =>
      rw [unmetOf, ih]
      by_cases met : fallback.criterionId ∈ acMet <;>
        by_cases waived : fallback.criterionId ∈ acWaived <;>
        simp [met, waived, pure, Except.pure, bind, Except.bind, Functor.map, Except.map]

/-- The gap that the fallback makes of the first unlisted criterion. -/
def gapOf : List Fallback → GapResult
  | [] => terminalGap
  | first :: rest =>
      { criterionId := .ofString first.criterionId
        description := .ofString first.description
        suggestedQuestion := .ofString first.question
        priority := 1
        isTerminal := false
        unmetCount := (first :: rest).length }

@[simp] theorem gapOf_isTerminal (table : List Fallback) :
    (gapOf table).isTerminal = true ↔ table = [] := by
  cases table <;> simp [gapOf, terminalGap]

/-- On the document of a session the fallback never raises. -/
theorem deterministicFallback_toJson [Runtime] (state : SessionState) :
    deterministicFallback (phaseOf state.toJson) state.toJson =
      .ok (gapOf (unlisted state)) := by
  have met : getField state.toJson "ac_met" (.list []) = listJson .ofString state.acMet :=
    state.getField_toJson _ (by simp [SessionState.jsonFields])
  have waived : getField state.toJson "ac_waived" (.list []) =
      listJson .ofString state.acWaived :=
    state.getField_toJson _ (by simp [SessionState.jsonFields])
  simp only [deterministicFallback, met, waived, phaseOf_toJson, fallbacksOf_toJson, bind,
    Except.bind, unmetOf_listJson]
  rw [← unlisted]
  cases unlisted state <;> rfl

/-- Where a phase has a table, it holds the criteria that are not optional. -/
theorem mem_fallbacks {phase : SessionPhase} {id : String} (table : fallbacks phase ≠ []) :
    id ∈ (fallbacks phase).map (·.criterionId) ↔
      id ∈ phase.criterionIds ∧ isOptional id = false := by
  have within : ∀ id ∈ (fallbacks phase).map (·.criterionId),
      id ∈ phase.criterionIds ∧ isOptional id = false := by
    cases phase <;> decide
  have complete : ∀ id ∈ phase.criterionIds, isOptional id = false →
      id ∈ (fallbacks phase).map (·.criterionId) := by
    cases phase with
    | problemIntake | stakeholderDiscovery | requirementElicitation | constraintCapture =>
        decide
    | architectureAlignment | reviewAndSignOff | signedOff => exact absurd rfl table
  exact ⟨within id, fun required => complete id required.1 required.2⟩

end GapAnalyzer

/-- The first criterion of the table that the session does not list fails its field
check too; and in a phase without a table no criterion is left over. -/
def FieldsMatchLists (state : SessionState) : Prop :=
  (∀ fallback ∈ (GapAnalyzer.unlisted state).head?,
      ∀ check ∈ state.currentPhase.checks state, check.id = fallback.criterionId →
        check.fieldMet = false) ∧
    (GapAnalyzer.fallbacks state.currentPhase = [] →
      ∀ check ∈ state.currentPhase.checks state, isOptional check.id = true ∨
        check.fieldMet = true ∨ check.id ∈ state.acMet ∨ check.id ∈ state.acWaived)

theorem mem_unlisted {state : SessionState} {fallback : Fallback}
    (member : fallback ∈ GapAnalyzer.unlisted state) :
    fallback ∈ GapAnalyzer.fallbacks state.currentPhase ∧
      fallback.criterionId ∉ state.acMet ∧ fallback.criterionId ∉ state.acWaived := by
  simpa [GapAnalyzer.unlisted] using member

/-- With every criterion of the table listed, a phase with a table is ready. -/
theorem ready_of_unlisted_nil {state : SessionState}
    (working : state.currentPhase ≠ .signedOff)
    (table : GapAnalyzer.fallbacks state.currentPhase ≠ [])
    (listed : GapAnalyzer.unlisted state = []) :
    (state.currentPhase.evaluateAc state).transitionReady = true := by
  rw [SessionPhase.evaluateAc_ready_iff working]
  intro check member
  by_cases optional : isOptional check.id = true
  · exact .inl optional
  · have id : check.id ∈ state.currentPhase.criterionIds := by
      rw [← SessionPhase.map_id_checks _ state]
      exact List.mem_map_of_mem member
    obtain ⟨fallback, found, same⟩ := List.mem_map.mp
      ((GapAnalyzer.mem_fallbacks table).mpr ⟨id, by simpa using optional⟩)
    have kept := List.filter_eq_nil_iff.mp listed fallback found
    rw [← same]
    simp only [decide_eq_true_eq, not_and_or, not_not] at kept
    exact .inr (.inr kept)

/-- The check that belongs to a criterion of the table. -/
theorem exists_check {state : SessionState} {fallback : Fallback}
    (member : fallback ∈ GapAnalyzer.unlisted state) :
    ∃ check ∈ state.currentPhase.checks state, check.id = fallback.criterionId ∧
      isOptional check.id = false := by
  rcases mem_unlisted member with ⟨found, _, _⟩
  have table : GapAnalyzer.fallbacks state.currentPhase ≠ [] := List.ne_nil_of_mem found
  obtain ⟨id, required⟩ := (GapAnalyzer.mem_fallbacks table).mp
    (List.mem_map_of_mem (f := (·.criterionId)) found)
  rw [← SessionPhase.map_id_checks _ state] at id
  rcases List.mem_map.mp id with ⟨check, present, same⟩
  exact ⟨check, present, same, same ▸ required⟩

section Agreement

variable [Runtime]

/-- The fallback and the evaluator of the phase agree on a session: the gap is terminal
exactly when the transition is ready, and otherwise it names a criterion that is unmet
and not optional. -/
def FallbackAgrees (state : SessionState) : Prop :=
  ∃ gap,
    GapAnalyzer.deterministicFallback (phaseOf state.toJson) state.toJson = .ok gap ∧
      (gap.isTerminal = true ↔
        (state.currentPhase.evaluateAc state).transitionReady = true) ∧
      (gap.isTerminal = false →
        ∃ criterion ∈ (state.currentPhase.evaluateAc state).criteria,
          gap.criterionId = .ofString criterion.id ∧ criterion.status = .unmet ∧
            isOptional criterion.id = false)

theorem fallbackAgrees_gapOf {state : SessionState} :
    FallbackAgrees state ↔
      ((GapAnalyzer.gapOf (GapAnalyzer.unlisted state)).isTerminal = true ↔
        (state.currentPhase.evaluateAc state).transitionReady = true) ∧
      ((GapAnalyzer.gapOf (GapAnalyzer.unlisted state)).isTerminal = false →
        ∃ criterion ∈ (state.currentPhase.evaluateAc state).criteria,
          (GapAnalyzer.gapOf (GapAnalyzer.unlisted state)).criterionId =
              .ofString criterion.id ∧
            criterion.status = .unmet ∧ isOptional criterion.id = false) := by
  rw [FallbackAgrees]
  simp only [GapAnalyzer.deterministicFallback_toJson, Except.ok.injEq, exists_eq_left']

/-- With no criterion left in the table, agreement is readiness. -/
theorem fallbackAgrees_of_nil {state : SessionState}
    (listed : GapAnalyzer.unlisted state = []) :
    FallbackAgrees state ↔ (state.currentPhase.evaluateAc state).transitionReady = true := by
  rw [fallbackAgrees_gapOf, listed]
  constructor
  · intro agrees
    exact agrees.1.mp rfl
  · intro ready
    exact ⟨iff_of_true rfl ready, fun notTerminal => by cases notTerminal⟩

/-- With a first criterion left in the table, agreement means that its check fails. -/
theorem fallbackAgrees_of_cons {state : SessionState}
    (working : state.currentPhase ≠ .signedOff) {first : Fallback} {rest : List Fallback}
    (unlisted : GapAnalyzer.unlisted state = first :: rest) :
    FallbackAgrees state ↔ ∀ check ∈ state.currentPhase.checks state,
      check.id = first.criterionId → check.fieldMet = false := by
  have criteria : (state.currentPhase.evaluateAc state).criteria =
      (state.currentPhase.checks state).map (·.criterion state.acMet state.acWaived) := by
    rw [SessionPhase.evaluateAc_eq working, AcResult.fromChecks_criteria]
  rw [fallbackAgrees_gapOf, unlisted]
  constructor
  · rintro ⟨_, named⟩ check member same
    rcases named rfl with ⟨criterion, listed, id, unmet, _⟩
    rw [criteria] at listed
    rcases List.mem_map.mp listed with ⟨other, present, rfl⟩
    have sameId : first.criterionId = other.id :=
      Text.ofString_inj.mp (Json.str.inj id : Text.ofString _ = Text.ofString _)
    rw [SessionPhase.eq_of_id_eq member present (same.trans sameId)]
    exact (AcCheck.status_eq_unmet.mp unmet).1
  · intro fails
    have member : first ∈ GapAnalyzer.unlisted state := by simp [unlisted]
    rcases mem_unlisted member with ⟨_, notMet, notWaived⟩
    rcases exists_check member with ⟨check, present, same, required⟩
    have unmet : check.status state.acMet state.acWaived = .unmet := by
      rw [AcCheck.status_eq_unmet, same]
      exact ⟨fails check present same, notMet, notWaived⟩
    constructor
    · -- The unmet criterion itself keeps the transition from being ready.
      refine iff_of_false (by simp [GapAnalyzer.gapOf]) fun ready => ?_
      rw [SessionPhase.evaluateAc_eq working, AcResult.fromChecks_ready_iff] at ready
      rcases ready check present with optional | met
      · simp [required] at optional
      · exact met unmet
    · intro _
      refine ⟨check.criterion state.acMet state.acWaived, ?_, ?_, unmet, required⟩
      · rw [criteria]
        exact List.mem_map_of_mem present
      · rw [AcCheck.criterion, same]
        rfl

/-- Before the final phase, fallback and evaluator agree exactly when the fields of the
session match its lists. -/
theorem fallbackAgrees_iff (state : SessionState)
    (working : state.currentPhase ≠ .signedOff) :
    FallbackAgrees state ↔ FieldsMatchLists state := by
  rw [FieldsMatchLists]
  cases unlisted : GapAnalyzer.unlisted state with
  | nil =>
      rw [fallbackAgrees_of_nil unlisted]
      constructor
      · intro ready
        exact ⟨by simp, fun _ => (SessionPhase.evaluateAc_ready_iff working state).mp ready⟩
      · rintro ⟨_, noTable⟩
        by_cases table : GapAnalyzer.fallbacks state.currentPhase = []
        · exact (SessionPhase.evaluateAc_ready_iff working state).mpr (noTable table)
        · exact ready_of_unlisted_nil working table unlisted
  | cons first rest =>
      rw [fallbackAgrees_of_cons working unlisted]
      have member : first ∈ GapAnalyzer.unlisted state := by simp [unlisted]
      have table := List.ne_nil_of_mem (mem_unlisted member).1
      constructor
      · intro fails
        constructor
        · intro other head
          rw [List.head?_cons, Option.mem_def, Option.some.injEq] at head
          subst head
          exact fails
        · intro noTable
          exact absurd noTable table
      · intro fields
        exact fields.1 first rfl

end Agreement

/-! ### A phase without a table -/

section Sample

attribute [local instance] referenceRuntime

/-- A fresh session in the fifth phase. -/
def sampleArchitecture : SessionState :=
  { SessionState.new 0xA1 1700000000000000000 1 2 with currentPhase := .architectureAlignment }

theorem fallbackAgrees_iff_sampleArchitecture :
    FallbackAgrees sampleArchitecture ↔ FieldsMatchLists sampleArchitecture :=
  fallbackAgrees_iff sampleArchitecture (by decide)

/-- Nothing is met, but the fallback reports the phase as complete. -/
theorem not_fallbackAgrees_of_sampleArchitecture :
    ¬∀ state, state.currentPhase ≠ .signedOff → FallbackAgrees state := by
  intro all
  obtain ⟨gap, fallback, terminal, _⟩ := all sampleArchitecture (by decide)
  rw [GapAnalyzer.deterministicFallback_toJson, Except.ok.injEq] at fallback
  have ready := terminal.mp (fallback ▸ rfl)
  have notReady : (sampleArchitecture.currentPhase.evaluateAc
      sampleArchitecture).transitionReady = false := by decide
  rw [notReady] at ready
  cases ready

end Sample

end Chitragupt
