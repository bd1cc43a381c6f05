import Chitragupt.Pipeline.GapAnalyzer

/-!
# The guidance generator

The last node and the only one that streams.  Tokens go to the sink as they arrive;
a failure of any kind aborts the pipeline and closes the sink.
-/

namespace Chitragupt

open Python (PyError Json)

/-- What a streaming node has put on the sink, and how it ends.  Without an end
neither a result nor the closing mark ever comes. -/
structure Generation (α : Type) where
  tokens : List Text
  outcome : Outcome α

namespace GuidanceGenerator

def signOffPhase : Text := .ofString "ReviewAndSignOff"

def phaseNext : List (String × String) :=
  [ ("ProblemIntake", "Stakeholder Discovery"),
    ("StakeholderDiscovery", "Requirement Elicitation"),
    ("RequirementElicitation", "Constraint Capture"),
    ("ConstraintCapture", "Architecture Alignment"),
    ("ArchitectureAlignment", "Review & Sign-Off"),
    ("ReviewAndSignOff", "Sign-Off") ]

/-- `_PHASE_NEXT.get(phase, "the next phase")`. -/
def nextPhase (phase : Json) : Except PyError String :=
  match phase with
  | .str text =>
      .ok ((phaseNext.find? fun (name, _) => Text.ofString name == text).elim "the next phase"
        Prod.snd)
  | .list _ | .dict _ => .error (.typeError s!"unhashable type: '{phase.typeName}'")
  | _ => .ok "the next phase"

section Prompts

variable [Rendering]

/-- `template.replace(placeholder, value)` for a value of any type. -/
def fill (placeholder : String) (value : Json) (template : Text) : Except PyError Text := do
  let text ← value.asStr s!"replace() argument 2 must be str, not {value.typeName}"
  return template.replace (.ofString placeholder) text

def buildSystemPrompt (prompt : String → Except PyError Text) (state : PipelineState) :
    Except PyError Text := do
  let phase := state.llmCtx.currentPhase
  let gap := state.gapAnalysis
  let session := state.sessionState
  let template ← prompt "guidance_generator.txt"
  let gapDescription := gap.elim (.ofString "No gap identified.") (·.description)
  let suggestedQuestion := gap.elim (.ofString "") (·.suggestedQuestion)
  let isTerminal := gap.elim false (·.isTerminal)
  let field := fun name => getField session name .null
  let count := fun name => GapAnalyzer.fieldLength session name
  let snapshot ← Rendering.dumps (some 2) (.dict
    [ (.ofString "problem_statement", field "problem_statement"),
      (.ofString "domain", field "business_domain"),
      (.ofString "actor_count", .int (← count "actors")),
      (.ofString "requirement_count", .int (← count "requirements")),
      (.ofString "constraint_count", .int (← count "constraints")),
      (.ofString "open_questions", .int (← count "open_questions")) ])
  let result ← fill "\x7b\x7bPHASE\x7d\x7d" phase template
  let result ← fill "\x7b\x7bGAP_DESCRIPTION\x7d\x7d" gapDescription result
  let result ← fill "\x7b\x7bSUGGESTED_QUESTION\x7d\x7d"
    (if isTerminal then .ofString "" else suggestedQuestion) result
  fill "\x7b\x7bSESSION_SNAPSHOT\x7d\x7d" (.str snapshot) result

/-- An entity in the summary of a turn, cut after 80 characters. -/
def summarize (entity : Entity) : Except PyError Text := do
  let value ← entity.value.takeFirst 80
  return strOf entity.entityType ++ Text.ofString ": " ++ strOf value

def buildUserMessage (state : PipelineState) : Except PyError Text := do
  let isTerminal := state.gapAnalysis.elim false (·.isTerminal)
  let captured ←
    if state.extractedEntities.isEmpty then pure []
    else
      let summaries ← (state.extractedEntities.take 5).mapM summarize
      pure [Text.ofString "[Captured this turn: " ++
        List.intercalate (Text.ofString "; ") summaries ++ Text.ofString "]"]
  let offer ←
    if isTerminal then
      let next ← nextPhase state.llmCtx.currentPhase
      pure (Text.ofString s!"[All AC met — offer transition to {next}]")
    else
      let intent := state.intent.getD "None"
      pure (.ofString s!"[BA message intent: {intent}]")
  let parts := captured ++ [offer, Text.ofString "BA message: " ++ state.userMessage]
  return List.intercalate (Text.ofString "\n") parts

/-! ## The node -/

variable (config : OrchestrationConfig) (environment : Environment)

/-- The streaming request of the turn. -/
def buildRequest (state : PipelineState) : Except PyError LlmRequest := do
  let map := config.models.functionMap
  let (feature, tier) : LLMFeature × String :=
    if state.llmCtx.currentPhase.isStr signOffPhase then (.brdGeneration, map.brdGeneration)
    else (.requirementRefinement, map.requirementRefinement)
  let client ← state.llmCtx.get environment.providers feature
  let model ← config.modelId tier
  let system ← buildSystemPrompt environment.prompt state
  let content ← buildUserMessage state
  return { client, model, system, content, maxTokens := 1024 }

def generate (state : PipelineState) : Generation PipelineState :=
  match buildRequest config environment state with
  | .error error => { tokens := [], outcome := .raises error }
  | .ok request =>
      let stream := environment.stream request
      { tokens := stream.tokens
        outcome :=
          match stream.ending with
          | .finished => .returns { state with guidanceTokens := stream.tokens }
          | .raised error => .raises error
          | .stalled => .timesOut }

/-- The state after a failure. -/
def abort (state : PipelineState) (error : PyError) : PipelineState :=
  { state.failed state "GuidanceGeneratorNode" error.message with
    guidanceTokens := []
    pipelineAborted := true }

/-- The node.  No timeout applies to it. -/
def call (state : PipelineState) : Generation PipelineState :=
  let generation := generate config environment state
  match generation.outcome with
  | .raises error => { generation with outcome := .returns (abort state error) }
  | _ => generation

/-- The node returns the tokens, aborts, or never ends. -/
theorem generate_cases (state : PipelineState) :
    (∃ guidanceTokens, (generate config environment state).outcome =
      .returns { state with guidanceTokens }) ∨
    (∃ error, (generate config environment state).outcome = .raises error) ∨
    (generate config environment state).outcome = .timesOut := by
  rw [generate]
  cases buildRequest config environment state with
  | error error => exact .inr (.inl ⟨error, rfl⟩)
  | ok request =>
      dsimp only
      cases (environment.stream request).ending with
      | finished => exact .inl ⟨_, rfl⟩
      | raised error => exact .inr (.inl ⟨error, rfl⟩)
      | stalled => exact .inr (.inr rfl)

@[simp] theorem tokens_call (state : PipelineState) :
    (call config environment state).tokens = (generate config environment state).tokens := by
  unfold call
  dsimp only
  split <;> rfl

/-- A node that returns has streamed its tokens, or it has aborted. -/
theorem eq_of_call {state after : PipelineState}
    (returned : (call config environment state).outcome = .returns after) :
    (∃ guidanceTokens, (generate config environment state).outcome = .returns after ∧
      after = { state with guidanceTokens }) ∨
    ∃ error, (generate config environment state).outcome = .raises error ∧
      after = abort state error := by
  unfold call at returned
  dsimp only at returned
  rcases generate_cases config environment state with ⟨tokens, ended⟩ | ⟨error, raised⟩ | stalled
  · rw [ended] at returned ⊢
    cases ended.symm.trans returned
    exact .inl ⟨tokens, rfl, rfl⟩
  · rw [raised] at returned ⊢
    cases returned
    exact .inr ⟨error, rfl, rfl⟩
  · rw [stalled] at returned
    cases stalled.symm.trans returned

/-- No exception leaves the node. -/
theorem call_ne_raises (state : PipelineState) (error : PyError) :
    (call config environment state).outcome ≠ .raises error := by
  unfold call
  dsimp only
  split
  next raised => exact nofun
  next other =>
    intro raised
    exact other error raised

end Prompts

end GuidanceGenerator

end Chitragupt
