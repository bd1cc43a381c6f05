import Chitragupt.Lib.Conversion
import Chitragupt.Pipeline.State

/-!
# The gap analyzer

The node that names the highest-priority unmet criterion.  The model's reply is used
when it parses; otherwise the criteria of the fallback table are searched in order.
-/

namespace Chitragupt

open Python (PyError Json)

/-- A criterion of the fallback table with its question. -/
structure Fallback where
  criterionId : String
  description : String
  question : String
  deriving DecidableEq, Repr

namespace GapAnalyzer

def terminalGap : GapResult where
  criterionId := .ofString "TERMINAL"
  description := .ofString "All acceptance criteria met for this phase."
  suggestedQuestion := .ofString ""
  priority := 0
  isTerminal := true
  unmetCount := 0

/-- The ordered criteria of a phase. -/
def phaseAcFallbacks : List (String × List Fallback) :=
  [ ("ProblemIntake",
      [ ⟨"AC-S1-01", "Problem statement",
          "Can you describe the business problem in a few sentences?"⟩,
        ⟨"AC-S1-02", "Business domain",
          "What industry or business domain does this project operate in?"⟩,
        ⟨"AC-S1-03", "Primary goal",
          "What is the single most important outcome this project needs to achieve?"⟩,
        ⟨"AC-S1-04", "Pain point",
          "What is the biggest pain point the current process has?"⟩,
        ⟨"AC-S1-05", "Scope boundary",
          "Are there things explicitly out of scope for this project?"⟩ ]),
    ("StakeholderDiscovery",
      [ ⟨"AC-S2-01", "Actors identified",
          "Who are the main types of users that will interact with this system?"⟩,
        ⟨"AC-S2-02", "Decision-maker",
          "Who is the single most important stakeholder that will sign off on this project?"⟩,
        ⟨"AC-S2-03", "External systems",
          "Does this system need to connect with any existing tools or services?"⟩,
        ⟨"AC-S2-04", "Success definition",
          "How will the client know this project has been successful?"⟩,
        ⟨"AC-S2-05", "Regulatory context",
          "Are there any regulatory or compliance requirements to be aware of?"⟩ ]),
    ("RequirementElicitation",
      [ ⟨"AC-S3-01", "Five functional requirements",
          "Let's keep going — what else does the system need to do?"⟩,
        ⟨"AC-S3-02", "Non-functional requirement",
          "Are there any performance or reliability targets?"⟩,
        ⟨"AC-S3-03", "Actor linkage",
          "Who specifically needs this feature — which user role does it serve?"⟩,
        ⟨"AC-S3-04", "No conflicts",
          "Are there any conflicting requirements we need to resolve?"⟩,
        ⟨"AC-S3-05", "Acceptance criterion",
          "For the most critical requirement, how would you test that it works?"⟩ ]),
    ("ConstraintCapture",
      [ ⟨"AC-S4-01", "Budget",
          "Is there a budget range or ceiling for this project?"⟩,
        ⟨"AC-S4-02", "Timeline",
          "Is there a target delivery date or deadline?"⟩,
        ⟨"AC-S4-03", "Tech constraints",
          "Are there any technology constraints or mandated platforms?"⟩,
        ⟨"AC-S4-04", "Data residency",
          "Where does the data need to be stored?"⟩,
        ⟨"AC-S4-05", "Assumptions",
          "Let me read back the assumptions we've been working from — do they look correct?"⟩ ]) ]

/-- `_PHASE_AC_FALLBACKS.get(phase, [])`. -/
def fallbacksOf (phase : Json) : Except PyError (List Fallback) :=
  match phase with
  | .str text =>
      .ok ((phaseAcFallbacks.find? fun (name, _) => Text.ofString name == text).elim []
        Prod.snd)
  | .list _ | .dict _ => .error (.typeError s!"unhashable type: '{phase.typeName}'")
  | _ => .ok []

/-- The criteria that neither list of the session contains. -/
def unmetOf (acMet acWaived : Json) : List Fallback → Except PyError (List Fallback)
  | [] => .ok []
  | fallback :: rest => do
      let id := Text.ofString fallback.criterionId
      let met ← acMet.containsStr id
      let unmet ← if met then .ok false else (!·) <$> acWaived.containsStr id
      let others ← unmetOf acMet acWaived rest
      return if unmet then fallback :: others else others

/-- The first unmet criterion from the fallback table. -/
def deterministicFallback (phase session : Json) : Except PyError GapResult := do
  let acMet := getField session "ac_met" (.list [])
  let acWaived := getField session "ac_waived" (.list [])
  let fallbacks ← fallbacksOf phase
  match ← unmetOf acMet acWaived fallbacks with
  | [] => return terminalGap
  | first :: rest =>
      return {
        criterionId := .ofString first.criterionId
        description := .ofString first.description
        suggestedQuestion := .ofString first.question
        priority := 1
        isTerminal := false
        unmetCount := (first :: rest).length }

/-- The result in the model's reply; none where the reply is rejected. -/
def parseGap (recursionLimit : Nat) (raw : Text) : Except PyError (Option GapResult) :=
  let parsed : Except PyError GapResult := do
    let data ← Python.loads recursionLimit raw
    return {
      criterionId := ← data.subscript "criterion_id"
      description := ← data.subscript "description"
      suggestedQuestion := ← data.get "suggested_question" (.ofString "")
      priority := ← (← data.get "priority" (.int 0)).toInt
      isTerminal := (← data.get "is_terminal" (.bool false)).truthy
      unmetCount := ← (← data.get "unmet_count" (.int 0)).toInt }
  match parsed with
  | .ok gap => .ok (some gap)
  | .error error =>
      if error.isValueError || error.cls == .keyError || error.cls == .typeError then .ok none
      else .error error

/-- The number of items of a collection of the session. -/
def fieldLength (session : Json) (name : String) : Except PyError Nat :=
  ((getField session name .null).orElse (.list [])).len

def criterionInput (acMet acWaived : List Json) (priority : Nat) (fallback : Fallback) :
    Json :=
  let id := Text.ofString fallback.criterionId
  .dict
    [ (.ofString "criterion_id", .str id),
      (.ofString "description", .ofString fallback.description),
      (.ofString "met", .bool (acMet.any (·.isStr id))),
      (.ofString "waived", .bool (acWaived.any (·.isStr id))),
      (.ofString "priority", .int priority) ]

def chunkInput [Runtime] (chunk : ChunkRef) : Json :=
  .dict
    [ (.ofString "chunk_id", .ofString (Runtime.hyphenated chunk.chunkId)),
      (.ofString "content", .str (chunk.content.take 500)),
      (.ofString "score", .float chunk.score),
      (.ofString "section_title", chunk.sectionTitle.elim .null .str),
      (.ofString "page_number", chunk.pageNumber.elim .null .int) ]

/-- The input of the model: the session with this turn's entities counted in. -/
def buildGapInput [Runtime] (state : PipelineState) : Except PyError Json := do
  let session := state.sessionState
  let phase := state.llmCtx.currentPhase
  let actorCount := (← fieldLength session "actors") +
    countType "actor" state.extractedEntities
  let reqCount := (← fieldLength session "requirements") +
    countType "requirement" state.extractedEntities
  let field := fun name => getField session name .null
  let snapshot := Json.dict
    [ (.ofString "problem_statement", field "problem_statement"),
      (.ofString "domain", field "business_domain"),
      (.ofString "actors", .int actorCount),
      (.ofString "requirements", .int reqCount),
      (.ofString "constraints", .int (← fieldLength session "constraints")),
      (.ofString "assumptions", .int (← fieldLength session "assumptions")),
      (.ofString "open_questions", .int (← fieldLength session "open_questions")),
      (.ofString "documents_indexed", .int (← fieldLength session "documents_indexed")),
      (.ofString "regulatory_context", field "regulatory_context"),
      (.ofString "success_definition", field "success_definition"),
      (.ofString "architecture_approach", field "architecture_approach"),
      (.ofString "deployment_environment", field "deployment_environment") ]
  let acMet ← ((field "ac_met").orElse (.list [])).toList
  let acWaived ← ((field "ac_waived").orElse (.list [])).toList
  let fallbacks ← fallbacksOf phase
  let acCriteria := fallbacks.mapIdx fun index fallback =>
    criterionInput acMet acWaived (index + 1) fallback
  return .dict
    [ (.ofString "current_phase", phase),
      (.ofString "ac_criteria", .list acCriteria),
      (.ofString "session_snapshot", snapshot),
      (.ofString "retrieved_chunks", .list (state.retrievedChunks.map chunkInput)) ]

variable [Runtime] [Rendering] (config : OrchestrationConfig) (environment : Environment)

/-- The gap in the model's reply, if it parses. -/
def readGap (state : PipelineState) : Outcome (Option GapResult) := do
  let client ← state.llmCtx.get environment.providers .ragSynthesis
  let model ← config.modelId config.models.functionMap.ragSynthesis
  let system ← environment.prompt "gap_analyzer.txt"
  let gapInput ← buildGapInput state
  let content ← Rendering.dumps none gapInput
  let reply ← environment.reply { client, model, system, content, maxTokens := 512 }
  parseGap environment.recursionLimit (reply.elim [] Python.strip)

/-- The request that the node makes, once it has a client. -/
def request (state : PipelineState) : Except PyError LlmRequest := do
  let client ← state.llmCtx.get environment.providers .ragSynthesis
  let model ← config.modelId config.models.functionMap.ragSynthesis
  let system ← environment.prompt "gap_analyzer.txt"
  let gapInput ← buildGapInput state
  let content ← Rendering.dumps none gapInput
  return { client, model, system, content, maxTokens := 512 }

/-- The provider is called with this request and no other. -/
theorem readGap_eq (state : PipelineState) :
    readGap config environment state = (do
      let request ← Outcome.ofExcept (request config environment state)
      let reply ← environment.reply request
      parseGap environment.recursionLimit (reply.elim [] Python.strip)) := by
  simp only [request, Outcome.ofExcept_bind, Outcome.bind_assoc]
  rfl

def analyze (state : PipelineState) : Outcome PipelineState := do
  let gap ←
    match ← readGap config environment state with
    | some gap => pure gap
    | none => deterministicFallback state.llmCtx.currentPhase state.sessionState
  return { state with gapAnalysis := some gap }

theorem eq_of_analyze {state after : PipelineState}
    (returned : analyze config environment state = .returns after) :
    ∃ gap, after = { state with gapAnalysis := some gap } := by
  rw [analyze, Outcome.bind_eq_returns] at returned
  rcases returned with ⟨parsed, _, returned⟩
  cases parsed with
  | some gap =>
      cases returned
      exact ⟨gap, rfl⟩
  | none =>
      dsimp only at returned
      rw [Outcome.bind_eq_returns] at returned
      rcases returned with ⟨gap, _, same⟩
      exact ⟨gap, (Outcome.pure_eq_returns.mp same).symm⟩

/-- The node.  Its default state is computed before the exceptions are caught. -/
def call (state : PipelineState) : Except PyError PipelineState := do
  let gap ← deterministicFallback state.llmCtx.currentPhase state.sessionState
  return state.runWithTimeout "GapAnalyzerNode"
    config.orchestration.pipeline.timeoutMs.gapAnalyzer (analyze config environment state)
    { state with gapAnalysis := some gap }

/-- The gap that the model supplies in time. -/
def heardGap (state : PipelineState) : Option GapResult :=
  if config.orchestration.pipeline.timeoutMs.gapAnalyzer ≤ 0 then none
  else
    match readGap config environment state with
    | .returns gap => gap
    | _ => none

/-- The node takes the gap of the model, or else the one of the fallback table, and
changes nothing else but its errors. -/
theorem call_eq {state : PipelineState} {fallback : GapResult}
    (computed : deterministicFallback state.llmCtx.currentPhase state.sessionState =
      .ok fallback) :
    ∃ nodeErrors, call config environment state = .ok { state with
      gapAnalysis := some ((heardGap config environment state).getD fallback)
      nodeErrors } := by
  rw [call, computed]
  unfold PipelineState.runWithTimeout heardGap analyze
  split
  · exact ⟨_, rfl⟩
  · cases readGap config environment state with
    | returns parsed =>
        cases parsed with
        | some gap => exact ⟨_, rfl⟩
        | none =>
            rw [computed]
            exact ⟨_, rfl⟩
    | timesOut => exact ⟨_, rfl⟩
    | raises error =>
        dsimp only [bind, Outcome.bind]
        split
        · exact ⟨_, rfl⟩
        · exact ⟨_, rfl⟩

/-- What a node that gets through its default returns. -/
theorem eq_of_call {state after : PipelineState}
    (returned : call config environment state = .ok after) :
    ∃ fallback nodeErrors,
      deterministicFallback state.llmCtx.currentPhase state.sessionState = .ok fallback ∧
        after = { state with
          gapAnalysis := some ((heardGap config environment state).getD fallback)
          nodeErrors } := by
  have parts := returned
  rw [call, Python.bind_eq_ok] at parts
  rcases parts with ⟨fallback, computed, _⟩
  rcases call_eq config environment computed with ⟨nodeErrors, same⟩
  exact ⟨fallback, nodeErrors, computed, Except.ok.inj (returned.symm.trans same)⟩

/-- The node keeps the updates of the turn. -/
theorem acUpdates_call {state after : PipelineState}
    (returned : call config environment state = .ok after) :
    after.acUpdates = state.acUpdates := by
  rcases eq_of_call config environment returned with ⟨_, _, _, rfl⟩
  rfl

end GapAnalyzer

end Chitragupt
