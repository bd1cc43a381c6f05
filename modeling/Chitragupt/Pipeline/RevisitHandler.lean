import Chitragupt.Pipeline.GapAnalyzer

/-!
# The revisit handler

The node behind the intent `REVISIT`.  It finds the phase that the message names,
moves a session document there, and picks the question for the way back in.
-/

namespace Chitragupt

open Python (PyError Json)

namespace RevisitHandler

/-- Keywords and the phases they stand for, in order. -/
def phaseAliases : List (String × String) :=
  [ ("problem", "ProblemIntake"),
    ("problem intake", "ProblemIntake"),
    ("intent", "ProblemIntake"),
    ("stakeholder", "StakeholderDiscovery"),
    ("stakeholders", "StakeholderDiscovery"),
    ("actor", "StakeholderDiscovery"),
    ("actors", "StakeholderDiscovery"),
    ("requirement", "RequirementElicitation"),
    ("requirements", "RequirementElicitation"),
    ("constraint", "ConstraintCapture"),
    ("constraints", "ConstraintCapture"),
    ("budget", "ConstraintCapture"),
    ("timeline", "ConstraintCapture"),
    ("architecture", "ArchitectureAlignment"),
    ("arch", "ArchitectureAlignment"),
    ("review", "ReviewAndSignOff"),
    ("sign", "ReviewAndSignOff") ]

/-- The phases of the aliases, without the sign-off. -/
def validRevisitPhases : List String :=
  (phaseAliases.map Prod.snd).filter (· ≠ "ReviewAndSignOff")

/-- The phase of the first alias in the message that stands for a valid phase. -/
def extractTargetPhase (message : Text) : Option String :=
  phaseAliases.findSome? fun (keyword, phase) =>
    if message.contains (.ofString keyword) ∧ phase ∈ validRevisitPhases then some phase
    else none

def unknownGap : GapResult where
  criterionId := .ofString "REVISIT-UNKNOWN"
  description := .ofString "Target phase for revisit is unclear."
  suggestedQuestion := .ofString
    "Which part of our conversation would you like to go back to — the problem statement, stakeholders, requirements, or constraints?"
  priority := 0
  isTerminal := false
  unmetCount := 0

/-- The gap for the way back into a phase, from its unmet criteria.  It is never
terminal. -/
def reentryGap (target : String) : List Fallback → GapResult
  | first :: rest =>
      { criterionId := .ofString first.criterionId
        description := .ofString s!"Revisiting {target} — {first.description}"
        suggestedQuestion := .ofString first.question
        priority := 0
        isTerminal := false
        unmetCount := (first :: rest).length }
  | [] =>
      let spaced := (Text.ofString target).replace (.ofString "And") (.ofString " and ")
      { criterionId := .ofString "REVISIT-CONFIRMED"
        description := .ofString s!"All criteria already met in {target}."
        suggestedQuestion := .str (Text.ofString "We are back at " ++ spaced ++ Text.ofString
          ". Everything here is preserved. Is there something specific you would like to update?")
        priority := 0
        isTerminal := false
        unmetCount := 0 }

/-- A session document moved to the target; a document that is no object stays. -/
def moveTo (target : String) (session : Json) : Json :=
  match session with
  | .dict entries =>
      .dict (Python.assign (.ofString "revisit_target") (.ofString target)
        (Python.assign (.ofString "current_phase") (.ofString target) entries))
  | other => other

def handle (state : PipelineState) : Except PyError PipelineState := do
  match extractTargetPhase (Text.lower state.userMessage) with
  | none => return { state with gapAnalysis := some unknownGap }
  | some target =>
      let session := moveTo target state.sessionState
      let acMet := getField session "ac_met" (.list [])
      let acWaived := getField session "ac_waived" (.list [])
      let fallbacks ← GapAnalyzer.fallbacksOf (.ofString target)
      let unmet ← GapAnalyzer.unmetOf acMet acWaived fallbacks
      return { state with
        sessionState := session
        intent := some s!"REVISIT:{target}"
        gapAnalysis := some (reentryGap target unmet)
        extractedEntities := []
        acUpdates := [] }

/-- What the handler does: it moves the session to a target that the message names, or it
writes a gap only. -/
theorem handle_cases {state after : PipelineState} (handled : handle state = .ok after) :
    (extractTargetPhase (Text.lower state.userMessage) = none ∧
      after = { state with gapAnalysis := some unknownGap }) ∨
    ∃ target table unmet,
      extractTargetPhase (Text.lower state.userMessage) = some target ∧
      GapAnalyzer.fallbacksOf (.ofString target) = .ok table ∧
      GapAnalyzer.unmetOf (getField (moveTo target state.sessionState) "ac_met" (.list []))
        (getField (moveTo target state.sessionState) "ac_waived" (.list [])) table =
          .ok unmet ∧
      after = { state with
        sessionState := moveTo target state.sessionState
        intent := some s!"REVISIT:{target}"
        gapAnalysis := some (reentryGap target unmet)
        extractedEntities := []
        acUpdates := [] } := by
  rw [handle] at handled
  cases named : extractTargetPhase (Text.lower state.userMessage) with
  | none =>
      rw [named] at handled
      cases handled
      exact .inl ⟨rfl, rfl⟩
  | some target =>
      rw [named] at handled
      simp only [Python.bind_eq_ok, Python.pure_eq_ok] at handled
      rcases handled with ⟨table, found, unmet, selected, rfl⟩
      exact .inr ⟨target, table, unmet, rfl, found, selected, rfl⟩

/-- The handler has no errors to record. -/
theorem nodeErrors_handle {state after : PipelineState} (handled : handle state = .ok after) :
    after.nodeErrors = state.nodeErrors := by
  rcases handle_cases handled with ⟨_, rfl⟩ | ⟨_, _, _, _, _, _, rfl⟩ <;> rfl

/-- The timeout of the node, in milliseconds. -/
def timeoutMs : Int := 2000

def call (state : PipelineState) : PipelineState :=
  state.runWithTimeout "RevisitHandlerNode" timeoutMs (.ofExcept (handle state))
    { state with gapAnalysis := some GapAnalyzer.terminalGap }

/-- The handler finds a target phase in the message and gets through. -/
def Resolves (state : PipelineState) (target : String) : Prop :=
  extractTargetPhase (Text.lower state.userMessage) = some target ∧
    ∃ after, handle state = .ok after

/-- The target depends on the message and the session only. -/
theorem resolves_congr {state other : PipelineState} {target : String}
    (message : other.userMessage = state.userMessage)
    (session : other.sessionState = state.sessionState) :
    Resolves other target ↔ Resolves state target := by
  unfold Resolves
  rw [message]
  apply and_congr_right
  intro found
  unfold handle
  rw [message, session, found]
  simp only [Python.bind_eq_ok, Python.pure_eq_ok]
  constructor
  · rintro ⟨_, table, computed, unmet, selected, _⟩
    exact ⟨_, table, computed, unmet, selected, rfl⟩
  · rintro ⟨_, table, computed, unmet, selected, _⟩
    exact ⟨_, table, computed, unmet, selected, rfl⟩

theorem call_of_ok {state after : PipelineState} (handled : handle state = .ok after) :
    call state = after := by
  rw [call, handled]
  rfl

/-- With a target, the handler moves the document and asks for the way back in. -/
theorem call_of_resolves {state : PipelineState} {target : String}
    (resolves : Resolves state target) :
    ∃ unmet, call state = { state with
      sessionState := moveTo target state.sessionState
      intent := some s!"REVISIT:{target}"
      gapAnalysis := some (reentryGap target unmet)
      extractedEntities := []
      acUpdates := [] } := by
  rcases resolves with ⟨found, after, handled⟩
  rw [call_of_ok handled]
  rcases handle_cases handled with ⟨absent, _⟩ | ⟨_, _, unmet, named, _, _, rfl⟩
  · rw [found] at absent
    cases absent
  · rw [found] at named
    cases named
    exact ⟨unmet, rfl⟩

/-- Without a target, the handler writes a gap only. -/
theorem call_of_unresolved {state : PipelineState}
    (unresolved : ∀ target, ¬Resolves state target) :
    ∃ gap nodeErrors, call state = { state with gapAnalysis := some gap, nodeErrors } ∧
      (gap = unknownGap ∨ gap = GapAnalyzer.terminalGap) := by
  cases handled : handle state with
  | error error =>
      rw [call, handled]
      unfold PipelineState.runWithTimeout
      simp only [Outcome.ofExcept]
      split
      · exact ⟨_, _, rfl, .inr rfl⟩
      · split
        · exact ⟨_, _, rfl, .inr rfl⟩
        · exact ⟨_, _, rfl, .inr rfl⟩
  | ok after =>
      rw [call_of_ok handled]
      rcases handle_cases handled with ⟨_, rfl⟩ | ⟨target, _, _, named, _⟩
      · exact ⟨_, _, rfl, .inl rfl⟩
      · exact absurd ⟨named, after, handled⟩ (unresolved target)

/-- The handler moves the session to its target, or writes a gap only. -/
theorem call_cases (state : PipelineState) :
    (∃ target unmet, Resolves state target ∧ call state =
      { state with
        sessionState := moveTo target state.sessionState
        intent := some s!"REVISIT:{target}"
        gapAnalysis := some (reentryGap target unmet)
        extractedEntities := []
        acUpdates := [] }) ∨
    ∃ gap nodeErrors, call state = { state with gapAnalysis := some gap, nodeErrors } ∧
      (gap = unknownGap ∨ gap = GapAnalyzer.terminalGap) := by
  by_cases resolves : ∃ target, Resolves state target
  · obtain ⟨target, resolves⟩ := resolves
    obtain ⟨unmet, moved⟩ := call_of_resolves resolves
    exact .inl ⟨target, unmet, resolves, moved⟩
  · exact .inr (call_of_unresolved (not_exists.mp resolves))

theorem pipelineAborted_call (state : PipelineState) :
    (call state).pipelineAborted = state.pipelineAborted := by
  rcases call_cases state with ⟨_, _, _, same⟩ | ⟨_, _, same, _⟩ <;> rw [same]

theorem llmCtx_call (state : PipelineState) : (call state).llmCtx = state.llmCtx := by
  rcases call_cases state with ⟨_, _, _, same⟩ | ⟨_, _, same, _⟩ <;> rw [same]

/-- The updates of the turn are kept or dropped, never added to. -/
theorem acUpdates_call (state : PipelineState) :
    (call state).acUpdates ⊆ state.acUpdates := by
  rcases call_cases state with ⟨_, _, _, same⟩ | ⟨_, _, same, _⟩
  · rw [same]
    exact List.nil_subset _
  · rw [same]
    exact List.Subset.refl _

end RevisitHandler

end Chitragupt
