import Chitragupt.Pipeline.TurnOutcome
import Chitragupt.StateMachine.Transition

/-!
# Revisits on both sides

The revisit handler picks its target from the words of the message alone; the transition
engine moves a session to any other phase but the last.
-/

namespace Chitragupt

open Python (PyError Json)

namespace RevisitHandler

/-- The message contains a keyword of the phase, which may be revisited. -/
def Names (message : Text) (phase : SessionPhase) : Prop :=
  phase.variantName ∈ validRevisitPhases ∧
    ∃ keyword, (keyword, phase.variantName) ∈ phaseAliases ∧
      message.contains (.ofString keyword) = true

theorem exists_phase {name : String} (valid : name ∈ validRevisitPhases) :
    ∃ phase : SessionPhase, phase.variantName = name := by
  have all : ∀ name ∈ validRevisitPhases, ∃ phase ∈ [SessionPhase.problemIntake,
      .stakeholderDiscovery, .requirementElicitation, .constraintCapture,
      .architectureAlignment], phase.variantName = name := by
    decide
  obtain ⟨phase, _, same⟩ := all name valid
  exact ⟨phase, same⟩

/-- The position of the phase with a name. -/
def positionOf (name : String) : Nat :=
  match SessionPhase.fromStr name with
  | .ok phase => phase.position
  | .error _ => 0

@[simp] theorem positionOf_variantName (phase : SessionPhase) :
    positionOf phase.variantName = phase.position := by
  rw [positionOf, SessionPhase.fromStr_variantName]

/-- The keywords stand in the order of their phases. -/
theorem phaseAliases_sorted :
    phaseAliases.Pairwise fun earlier later => positionOf earlier.2 ≤ positionOf later.2 := by
  decide

/-- Where a target is found, it is the earliest phase that the message names. -/
theorem extractTargetPhase_eq_some {message : Text} {target : String}
    (found : extractTargetPhase message = some target) :
    ∃ phase : SessionPhase, phase.variantName = target ∧ Names message phase ∧
      ∀ other, Names message other → phase.position ≤ other.position := by
  rw [extractTargetPhase, List.findSome?_eq_some_iff] at found
  obtain ⟨before, ⟨keyword, name⟩, after, table, chosen, skipped⟩ := found
  obtain ⟨⟨mentioned, valid⟩, rfl⟩ : (message.contains (.ofString keyword) = true ∧
      name ∈ validRevisitPhases) ∧ name = target := by
    simpa using chosen
  obtain ⟨phase, rfl⟩ := exists_phase valid
  have sorted := phaseAliases_sorted
  rw [table, List.pairwise_append, List.pairwise_cons] at sorted
  refine ⟨phase, rfl, ⟨valid, keyword, by simp [table], mentioned⟩, ?_⟩
  rintro other ⟨validOther, word, listed, within⟩
  rw [table, List.mem_append, List.mem_cons] at listed
  rcases listed with earlier | same | later
  · -- An earlier keyword of a valid phase would have been chosen.
    have passed := skipped _ earlier
    simp [within, validOther] at passed
  · have equal := congrArg positionOf (Prod.mk.inj same).2
    rw [positionOf_variantName, positionOf_variantName] at equal
    exact equal.ge
  · simpa using sorted.2.1.1 _ later

/-- A message that names a phase has a target. -/
theorem extractTargetPhase_eq_none {message : Text} :
    extractTargetPhase message = none ↔ ∀ phase, ¬Names message phase := by
  rw [extractTargetPhase, List.findSome?_eq_none_iff]
  constructor
  · rintro passed phase ⟨valid, keyword, listed, mentioned⟩
    have skipped := passed _ listed
    simp [mentioned, valid] at skipped
  · rintro unnamed ⟨keyword, name⟩ listed
    apply if_neg
    rintro ⟨mentioned, valid⟩
    obtain ⟨phase, rfl⟩ := exists_phase valid
    exact unnamed phase ⟨valid, keyword, listed, mentioned⟩

end RevisitHandler

section Agreement

variable [Runtime]

/-- A phase that the handler goes back to lies before the phase of the session, and the
transition engine goes back to it as well. -/
def RevisitAgreed (now : Nat → DateTime) (session : SessionState) (state : PipelineState) :
    Prop :=
  ∀ target, RevisitHandler.Resolves state target →
    ∃ phase, SessionPhase.fromStr target = .ok phase ∧
      phase.position < session.currentPhase.position ∧
      ∃ after, TransitionEngine.revisit now session phase = .ok after

/-- Both sides agree on a session exactly when the message names no phase to go back to,
or one that lies before the phase of the session. -/
theorem revisitAgreed_iff (now : Nat → DateTime) (session : SessionState)
    (state : PipelineState) :
    RevisitAgreed now session { state with sessionState := session.toJson } ↔
      ((∃ phase, RevisitHandler.Names (Text.lower state.userMessage) phase) →
        ∃ phase, RevisitHandler.Names (Text.lower state.userMessage) phase ∧
          phase.position < session.currentPhase.position) := by
  have resolves_iff : ∀ target, RevisitHandler.Resolves
      { state with sessionState := session.toJson } target ↔
        RevisitHandler.extractTargetPhase (Text.lower state.userMessage) = some target :=
    fun target => RevisitHandler.resolves_toJson rfl
  constructor
  · rintro agreed ⟨named, names⟩
    cases found : RevisitHandler.extractTargetPhase (Text.lower state.userMessage) with
    | none => exact absurd names (RevisitHandler.extractTargetPhase_eq_none.mp found named)
    | some target =>
        obtain ⟨phase, read, back, _⟩ := agreed target ((resolves_iff target).mpr found)
        obtain ⟨first, rfl, namesFirst, _⟩ := RevisitHandler.extractTargetPhase_eq_some found
        rw [SessionPhase.fromStr_variantName, Except.ok.injEq] at read
        subst read
        exact ⟨first, namesFirst, back⟩
  · intro back target resolves
    obtain ⟨phase, rfl, names, earliest⟩ :=
      RevisitHandler.extractTargetPhase_eq_some ((resolves_iff target).mp resolves)
    obtain ⟨other, namesOther, before⟩ := back ⟨phase, names⟩
    have precedes := (earliest other namesOther).trans_lt before
    have notFinal : phase ≠ .signedOff := by
      rintro rfl
      exact absurd names.1 (by decide)
    have different : phase ≠ session.currentPhase := by
      rintro rfl
      exact precedes.false
    exact ⟨phase, SessionPhase.fromStr_variantName phase, precedes, _,
      TransitionEngine.revisit_eq_ok.mpr ⟨notFinal, different, rfl⟩⟩

end Agreement

/-! ### Back to the phase of the session -/

section Sample

attribute [local instance] referenceRuntime referenceRendering

/-- The handler goes back to the first phase of a session that has just begun there. -/
theorem not_revisitAgreed_of_fresh :
    ¬∀ now session (state : PipelineState),
      RevisitAgreed now session { state with sessionState := session.toJson } := by
  intro all
  have agreed := all (fun _ => 1700000000000000000) (.new 0xA1 1700000000000000000 1 2)
    (PipelineExecutor.initialState (.dict []) (.ofString "Let's go back to the problem.")
      (.forTurn {} .absent (.dict [])))
  obtain ⟨phase, read, back, _⟩ := agreed "ProblemIntake" ⟨by decide, _, rfl⟩
  cases read
  exact absurd back (by decide)

end Sample

end Chitragupt
