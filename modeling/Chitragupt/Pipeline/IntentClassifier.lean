import Chitragupt.Lib.Conversion
import Chitragupt.Pipeline.State

/-!
# The intent classifier

The first node of a turn.  The model's reply names one of nine intents; a message that
asks to go back turns a clarification into a revisit.
-/

namespace Chitragupt

open Python (PyError Json)

namespace IntentClassifier

def validIntents : List String :=
  ["ProblemCapture", "StakeholderProbe", "RequirementCapture", "ConstraintStatement",
    "ArchitectureComment", "ReviewFeedback", "UploadRequest", "Clarification", "REVISIT"]

def defaultIntent : String := "Clarification"

def revisitKeywords : List String :=
  ["back to", "go back", "revisit", "return to", "redo", "re-enter", "let's go back",
    "can we go back", "i need to change", "i want to change"]

/-- `code in VALID_INTENTS`, with the intent that equals the code. -/
def findIntent (code : Json) : Except PyError (Option String) :=
  match code with
  | .list _ | .dict _ => .error (.typeError s!"unhashable type: '{code.typeName}'")
  | code => .ok (validIntents.find? fun intent => code.isStr (.ofString intent))

/-- The intent of a reply.  Only some rejections of the reply are caught here; the
others reach the node. -/
def parseIntent (recursionLimit : Nat) (raw : Text) : Except PyError String :=
  let parsed : Except PyError String := do
    let data ← Python.loads recursionLimit raw
    let code ← data.get "intent" (.ofString defaultIntent)
    return (← findIntent code).getD defaultIntent
  match parsed with
  | .ok intent => .ok intent
  | .error error =>
      if error.cls = .jsonDecodeError ∨ error.cls = .typeError ∨ error.cls = .keyError then
        .ok defaultIntent
      else
        .error error

def maybeRevisit (intent : String) (message : Text) : String :=
  if intent = "Clarification" ∧ mentions (Text.lower message) revisitKeywords = true then
    "REVISIT"
  else
    intent

variable (config : OrchestrationConfig) (environment : Environment)

def classify (state : PipelineState) : Outcome PipelineState := do
  let client ← state.llmCtx.get environment.providers .intentClassification
  let model ← config.modelId config.models.functionMap.intentClassification
  let system ← environment.prompt "intent_classifier.txt"
  let reply ← environment.reply
    { client, model, system, content := state.userMessage, maxTokens := 32 }
  let intent ← parseIntent environment.recursionLimit (reply.elim [] Python.strip)
  return { state with intent := some (maybeRevisit intent state.userMessage) }

/-- The request that the node makes, once it has a client. -/
def request (state : PipelineState) : Except PyError LlmRequest := do
  let client ← state.llmCtx.get environment.providers .intentClassification
  let model ← config.modelId config.models.functionMap.intentClassification
  let system ← environment.prompt "intent_classifier.txt"
  return { client, model, system, content := state.userMessage, maxTokens := 32 }

/-- The provider is called with this request and no other. -/
theorem classify_eq (state : PipelineState) :
    classify config environment state = do
      let request ← Outcome.ofExcept (request config environment state)
      let reply ← environment.reply request
      let intent ← parseIntent environment.recursionLimit (reply.elim [] Python.strip)
      return { state with intent := some (maybeRevisit intent state.userMessage) } := by
  simp only [request, Outcome.ofExcept_bind, Outcome.bind_assoc]
  rfl

def call (state : PipelineState) : PipelineState :=
  state.runWithTimeout "IntentClassifierNode"
    config.orchestration.pipeline.timeoutMs.intentClassifier
    (classify config environment state) { state with intent := some defaultIntent }

theorem eq_of_classify {state after : PipelineState}
    (returned : classify config environment state = .returns after) :
    ∃ intent, after = { state with intent := some intent } := by
  simp only [classify, Outcome.bind_eq_returns, Outcome.pure_eq_returns] at returned
  rcases returned with ⟨_, _, _, _, _, _, _, _, intent, _, rfl⟩
  exact ⟨_, rfl⟩

/-- The node sets the intent and changes nothing else but its errors. -/
theorem call_eq (state : PipelineState) :
    ∃ intent nodeErrors, call config environment state =
      { state with intent := some intent, nodeErrors } := by
  apply PipelineState.of_runWithTimeout fun after => ∃ intent nodeErrors,
    after = { state with intent := some intent, nodeErrors }
  · intro after returned
    obtain ⟨intent, same⟩ := eq_of_classify config environment returned
    exact ⟨intent, _, same⟩
  · intro message
    exact ⟨_, _, rfl⟩

end IntentClassifier

end Chitragupt
