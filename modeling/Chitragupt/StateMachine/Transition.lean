import Chitragupt.StateMachine.AcEvaluators
import Chitragupt.StateMachine.Gates

/-!
# The transition engine

`attempt` decides a forward transition, `revisit` re-enters another phase.  The
order of the checks of `attempt` fixes which error a blocked transition reports.
-/

namespace Chitragupt

namespace TransitionEngine

/-- Decide a forward transition; the caller moves the session on success. -/
def attempt (state : SessionState) (target : SessionPhase) : Except StateError Unit :=
  if state.currentPhase.isTerminal then
    .error .sessionTerminated
  else if target ∉ state.currentPhase.validTransitions then
    .error (.invalidTransition state.currentPhase target)
  else
    let openHardGates := GateManager.openHardGates state
    if openHardGates ≠ [] then
      .error (.hardGateBlocking openHardGates.length)
    else
      let ac := state.currentPhase.evaluateAc state
      if ac.transitionReady then
        .ok ()
      else
        .error (.acNotMet ac.unmetCount)

/-- Re-enter another phase.  Only the final phase and the current one are refused.  The clock
is read for the record and once more for the session. -/
def revisit (now : Nat → DateTime) (state : SessionState) (target : SessionPhase) :
    Except StateError SessionState :=
  if target = .signedOff then
    .error (.invalidTransition state.currentPhase target)
  else if target = state.currentPhase then
    .error (.invalidTransition state.currentPhase target)
  else
    let record : RevisitRecord :=
      { fromPhase := state.currentPhase, toPhase := target, «at» := now 0 }
    .ok { state with
      revisitHistory := state.revisitHistory ++ [record]
      revisitTarget := some target
      currentPhase := target
      updatedAt := now 1 }

/-- The three conditions of an approved transition. -/
theorem attempt_eq_ok {state : SessionState} {target : SessionPhase} :
    attempt state target = .ok () ↔
      target ∈ state.currentPhase.validTransitions ∧
        GateManager.openHardGates state = [] ∧
        (state.currentPhase.evaluateAc state).transitionReady = true := by
  -- The terminal phase has no outgoing edge, so its check needs no clause of its own.
  have terminal : state.currentPhase.isTerminal = true →
      target ∉ state.currentPhase.validTransitions := by
    intro final
    rw [SessionPhase.isTerminal_iff.mp final]
    simp [SessionPhase.validTransitions]
  rw [attempt]
  by_cases final : state.currentPhase.isTerminal = true
  · simp [final, terminal final]
  · by_cases edge : target ∈ state.currentPhase.validTransitions <;>
      by_cases gates : GateManager.openHardGates state = [] <;>
      cases ready : (state.currentPhase.evaluateAc state).transitionReady <;>
      simp [final, edge, gates, ready]

/-- What a successful revisit does. -/
theorem revisit_eq_ok {now : Nat → DateTime} {state after : SessionState}
    {target : SessionPhase} :
    revisit now state target = .ok after ↔
      target ≠ .signedOff ∧ target ≠ state.currentPhase ∧
        after = { state with
          revisitHistory := state.revisitHistory ++
            [{ fromPhase := state.currentPhase, toPhase := target, «at» := now 0 }]
          revisitTarget := some target
          currentPhase := target
          updatedAt := now 1 } := by
  rw [revisit]
  by_cases final : target = .signedOff
  · simp [final]
  · by_cases same : target = state.currentPhase
    · simp [same]
    · simp only [final, same, if_false, not_false_eq_true, Except.ok.injEq, ne_eq,
        true_and]
      exact eq_comm

end TransitionEngine

end Chitragupt
