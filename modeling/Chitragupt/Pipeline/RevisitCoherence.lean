import Chitragupt.Pipeline.WriteSets

/-!
# The phase of a revisit

The phase of a session stands in the state of a turn and once more in its context.  The
revisit handler moves the state to the target phase; the guidance reads the context.
-/

namespace Chitragupt

open Python (PyError Json)

namespace RevisitHandler

/-- A session document that is an object moves to the target; any other one has no
phase of its own and stays. -/
theorem phaseOf_moveTo (target : String) (session : Json) :
    phaseOf (moveTo target session) = .ofString target ∨ moveTo target session = session := by
  cases session with
  | dict entries =>
      left
      have different : Text.ofString "current_phase" ≠ Text.ofString "revisit_target" := by
        decide
      rw [moveTo, phaseOf, getField, Python.lookup_assign_of_ne _ _ different,
        Python.lookup_assign_self]
      rfl
  | null | bool value | int value | float value | str value | list items => exact .inr rfl

/-- Behind the handler the session is in the phase of the context, if it was before and
moves nowhere else. -/
theorem phaseOf_call {state : PipelineState}
    (before : state.llmCtx.currentPhase = phaseOf state.sessionState)
    (already : ∀ target, Resolves state target →
      phaseOf state.sessionState = .ofString target) :
    (call state).llmCtx.currentPhase = phaseOf (call state).sessionState := by
  rw [llmCtx_call, before]
  rcases call_cases state with ⟨target, _, resolves, moved⟩ | ⟨_, _, same, _⟩
  · rw [moved]
    rcases phaseOf_moveTo target state.sessionState with there | stays
    · exact (already target resolves).trans there.symm
    · exact congrArg phaseOf stays.symm
  · rw [same]

end RevisitHandler

namespace PipelineGraph

variable [Runtime] [Rendering] (config : OrchestrationConfig) (environment : Environment)

/-- Wherever a node is entered, the context is in the phase of the session; and behind a
handler that resolves a target phase, the guidance works in that phase. -/
structure PhasesAgree (initial : PipelineState) : Prop where
  phases : ∀ visit ∈ visited config environment initial,
    visit.2.llmCtx.currentPhase = phaseOf visit.2.sessionState
  guidance : ∀ entered target, (.handleRevisit, entered) ∈ visited config environment initial →
    RevisitHandler.Resolves entered target →
    ∀ guided, (.generateGuidance, guided) ∈ visited config environment initial →
      guided.llmCtx.currentPhase = .ofString target

variable {config environment} {initial : PipelineState}

/-- The nodes of a revisit. -/
theorem visited_of_revisit (revisits : (fork config environment initial).1 = .revisit) :
    visited config environment initial =
      [(.classifyIntent, initial), (.handleRevisit, (fork config environment initial).2),
        (.generateGuidance, RevisitHandler.call (fork config environment initial).2)] := by
  rw [visited]
  dsimp only
  rw [revisits, edges, visits_cons_of_returns config environment rfl, visits_singleton]

/-- In a run that is opened in one phase, the phases agree as long as no other phase is
revisited. -/
theorem phasesAgree_of_opened
    (opened : initial.llmCtx.currentPhase = phaseOf initial.sessionState) :
    PhasesAgree config environment initial ↔
      ((fork config environment initial).1 = .revisit →
        ∀ target, RevisitHandler.Resolves initial target →
          phaseOf initial.sessionState = .ofString target) := by
  have inputs : SameInputs initial (fork config environment initial).2 := sameInputs_fork initial
  have congr : ∀ target, RevisitHandler.Resolves (fork config environment initial).2 target ↔
      RevisitHandler.Resolves initial target := fun target =>
    RevisitHandler.resolves_congr inputs.userMessage inputs.sessionState
  cases route : (fork config environment initial).1 with
  | default =>
      apply iff_of_true
      · constructor
        · intro visit member
          have same := sameInputs_of_visited route visit member
          rw [same.llmCtx, same.sessionState]
          exact opened
        · intro entered target member
          rw [handleRevisit_visited_iff, route] at member
          cases member.1
      · intro revisits
        cases revisits
  | revisit =>
      have guided : ∀ final, (.generateGuidance, final) ∈ visited config environment initial →
          final.llmCtx.currentPhase = phaseOf initial.sessionState := by
        intro final member
        rw [visited_of_revisit route] at member
        simp only [List.mem_cons, Prod.mk.injEq, reduceCtorEq, false_and, true_and,
          List.not_mem_nil, or_false, false_or] at member
        rw [member, RevisitHandler.llmCtx_call, inputs.llmCtx]
        exact opened
      constructor
      · intro agree _ target resolves
        have entered : (.handleRevisit, (fork config environment initial).2) ∈
            visited config environment initial := handleRevisit_visited_iff.mpr ⟨route, rfl⟩
        have final : (.generateGuidance, RevisitHandler.call (fork config environment initial).2) ∈
            visited config environment initial := by
          rw [visited_of_revisit route]
          simp
        rw [← guided _ final]
        exact agree.guidance _ target entered ((congr target).mpr resolves) _ final
      · intro already
        constructor
        · have classified : (fork config environment initial).2.llmCtx.currentPhase =
              phaseOf (fork config environment initial).2.sessionState := by
            rw [inputs.llmCtx, inputs.sessionState]
            exact opened
          have handled := RevisitHandler.phaseOf_call classified fun target resolves => by
            rw [inputs.sessionState]
            exact already rfl target ((congr target).mp resolves)
          rw [visited_of_revisit route]
          simp only [List.forall_mem_cons]
          exact ⟨opened, classified, handled, by simp⟩
        · intro entered target member resolves final guidance
          rw [handleRevisit_visited_iff] at member
          rw [← member.2, congr] at resolves
          rw [guided final guidance]
          exact already rfl target resolves

/-- The phases of a turn agree when it revisits nothing, or the phase that the session is
in anyway. -/
theorem phasesAgree_iff (redis : RedisConnection) (session : Json) (message : Text) :
    PhasesAgree config environment (PipelineExecutor.initialState session message
        (.forTurn config redis session)) ↔
      ((fork config environment (PipelineExecutor.initialState session message
          (.forTurn config redis session))).1 = .revisit →
        ∀ target, RevisitHandler.Resolves (PipelineExecutor.initialState session message
            (.forTurn config redis session)) target →
          phaseOf session = .ofString target) :=
  phasesAgree_of_opened rfl

end PipelineGraph

/-! ### Back to the stakeholders -/

section Sample

attribute [local instance] referenceRuntime referenceRendering

/-- A session in its third phase. -/
def sampleThirdPhase : Json :=
  .dict [(.ofString "current_phase", .ofString "RequirementElicitation")]

/-- A classifier that asks for clarification. -/
def sampleUnclear : Environment :=
  { sampleEnvironment with
    reply := fun _ => .returns (some (.ofString "{}")) }

/-- The handler is back at the stakeholders, the guidance is not. -/
theorem not_phasesAgree_of_sampleThirdPhase :
    ¬∀ (config : OrchestrationConfig) (environment : Environment) (redis : RedisConnection)
        (session : Json) (message : Text),
      PipelineGraph.PhasesAgree config environment (PipelineExecutor.initialState session message
        (.forTurn config redis session)) := by
  intro all
  have agree := all {} sampleUnclear .absent sampleThirdPhase
    (.ofString "Let's go back to the stakeholders.")
  have revisits : (PipelineGraph.fork {} sampleUnclear (PipelineExecutor.initialState
      sampleThirdPhase (.ofString "Let's go back to the stakeholders.")
      (.forTurn {} .absent sampleThirdPhase))).1 = .revisit := by
    decide +kernel
  have resolves : RevisitHandler.Resolves (PipelineExecutor.initialState sampleThirdPhase
      (.ofString "Let's go back to the stakeholders.") (.forTurn {} .absent sampleThirdPhase))
      "StakeholderDiscovery" := ⟨by decide, _, rfl⟩
  have same : Json.ofString "RequirementElicitation" = .ofString "StakeholderDiscovery" :=
    (PipelineGraph.phasesAgree_of_opened rfl).mp agree revisits _ resolves
  exact absurd (Text.ofString_inj.mp (Json.str.inj same)) (by decide)

end Sample

end Chitragupt
