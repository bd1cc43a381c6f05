import Chitragupt.Lib.Conversion
import Chitragupt.Pipeline.State

/-!
# The entity extractor

The node that parses entities out of the model's reply and derives optimistic updates
of the acceptance criteria from their number.
-/

namespace Chitragupt

open Python (PyError Json)

namespace EntityExtractor

/-- One item of the reply; an item that is no object, or lacks a type or a value, is
skipped. -/
def parseEntity (phase item : Json) : Except PyError (Option Entity) := do
  match item with
  | .dict _ =>
      let entityType ← item.get "entity_type" (.ofString "")
      let value ← item.get "value" (.ofString "")
      if !entityType.truthy || !value.truthy then
        return none
      else
        return some {
          entityType
          value
          confidence := ← (← item.get "confidence" (.float (.finite 1))).toFloat
          source := ← item.get "source" (.ofString "conversation")
          phase
          sourceChunkIds := [] }
  | _ => return none

/-- The entities of a reply; none at all where the reply or a confidence is rejected. -/
def parseEntities (recursionLimit : Nat) (raw : Text) (phase : Json) :
    Except PyError (List Entity) :=
  let parsed : Except PyError (List Entity) := do
    match ← Python.loads recursionLimit raw with
    | .list items => return (← items.mapM (parseEntity phase)).filterMap id
    | _ => return []
  match parsed with
  | .ok entities => .ok entities
  | .error error =>
      if error.isValueError || error.cls == .typeError then .ok [] else .error error

/-- The phrases that mark a decision-maker. -/
def decisionMakerPhrases : List String :=
  ["decision maker", "final approver", "decision_maker"]

/-- Some value mentions a decision-maker; the search stops at the first one. -/
def anyDecisionMaker : List Entity → Except PyError Bool
  | [] => .ok false
  | entity :: rest => do
      let lower ← entity.value.lower
      if mentions lower decisionMakerPhrases then return true
      else anyDecisionMaker rest

/-- The updates derived from the entities of a turn. -/
def deriveAcUpdates (entities : List Entity) (session phase : Json) :
    Except PyError (List AcUpdate) := do
  if entities.isEmpty then return []
  let collected := fun name => (getField session name (.list [])).len
  let actorCount := (← collected "actors") + countType "actor" entities
  let reqCount := (← collected "requirements") + countType "requirement" entities
  let _constraintCount := (← collected "constraints") + countType "constraint" entities
  if phase.isStr (.ofString "StakeholderDiscovery") then
    let actors : List AcUpdate :=
      if 2 ≤ actorCount then
        [⟨"AC-S2-01", true, s!"≥2 actors present ({actorCount} total)"⟩]
      else
        []
    let newActors := entities.filter fun entity => entity.entityType.isStr (.ofString "actor")
    let decisionMaker : List AcUpdate :=
      if ← anyDecisionMaker newActors then
        [⟨"AC-S2-02", true, "Decision-maker identified this turn"⟩]
      else
        []
    return actors ++ decisionMaker
  else if phase.isStr (.ofString "RequirementElicitation") then
    -- A rough proxy: the requirements are counted whatever their type.
    if 5 ≤ reqCount then
      return [⟨"AC-S3-01", true, s!"≥5 requirements present ({reqCount} total)"⟩]
    else
      return []
  else
    -- The other phases derive nothing.
    return []

variable (config : OrchestrationConfig) (environment : Environment)

def extract (state : PipelineState) : Outcome PipelineState := do
  let phase := state.llmCtx.currentPhase
  let client ← state.llmCtx.get environment.providers .dataTransformation
  let model ← config.modelId config.models.functionMap.dataTransformation
  let template ← environment.prompt "entity_extractor.txt"
  let phaseText ← phase.asStr s!"replace() argument 2 must be str, not {phase.typeName}"
  let system := template.replace (.ofString "\x7b\x7bPHASE\x7d\x7d") phaseText
  let reply ← environment.reply
    { client, model, system, content := state.userMessage, maxTokens := 1024 }
  let raw := reply.elim (.ofString "[]") Python.strip
  let entities ← parseEntities environment.recursionLimit raw phase
  let acUpdates ← deriveAcUpdates entities state.sessionState phase
  return { state with extractedEntities := entities, acUpdates }

/-- The request that the node makes, once it has a client. -/
def request (state : PipelineState) : Except PyError LlmRequest := do
  let phase := state.llmCtx.currentPhase
  let client ← state.llmCtx.get environment.providers .dataTransformation
  let model ← config.modelId config.models.functionMap.dataTransformation
  let template ← environment.prompt "entity_extractor.txt"
  let phaseText ← phase.asStr s!"replace() argument 2 must be str, not {phase.typeName}"
  let system := template.replace (.ofString "\x7b\x7bPHASE\x7d\x7d") phaseText
  return { client, model, system, content := state.userMessage, maxTokens := 1024 }

/-- The provider is called with this request and no other. -/
theorem extract_eq (state : PipelineState) :
    extract config environment state = do
      let phase := state.llmCtx.currentPhase
      let request ← Outcome.ofExcept (request config environment state)
      let reply ← environment.reply request
      let raw := reply.elim (.ofString "[]") Python.strip
      let entities ← parseEntities environment.recursionLimit raw phase
      let acUpdates ← deriveAcUpdates entities state.sessionState phase
      return { state with extractedEntities := entities, acUpdates } := by
  simp only [request, Outcome.ofExcept_bind, Outcome.bind_assoc]
  rfl

def call (state : PipelineState) : PipelineState :=
  state.runWithTimeout "EntityExtractorNode"
    config.orchestration.pipeline.timeoutMs.entityExtractor (extract config environment state)
    { state with extractedEntities := [], acUpdates := [] }

theorem eq_of_extract {state after : PipelineState}
    (returned : extract config environment state = .returns after) :
    ∃ extractedEntities acUpdates, after = { state with extractedEntities, acUpdates } := by
  simp only [extract, Outcome.bind_eq_returns, Outcome.pure_eq_returns] at returned
  rcases returned with ⟨_, _, _, _, _, _, _, _, _, _, _, _, _, _, rfl⟩
  exact ⟨_, _, rfl⟩

/-- The node sets the entities and the updates and changes nothing else but its errors. -/
theorem call_eq (state : PipelineState) :
    ∃ extractedEntities acUpdates nodeErrors, call config environment state =
      { state with extractedEntities, acUpdates, nodeErrors } := by
  apply PipelineState.of_runWithTimeout fun after => ∃ extractedEntities acUpdates nodeErrors,
    after = { state with extractedEntities, acUpdates, nodeErrors }
  · intro after returned
    obtain ⟨entities, updates, same⟩ := eq_of_extract config environment returned
    exact ⟨entities, updates, _, same⟩
  · intro message
    exact ⟨_, _, _, rfl⟩

/-- Every derived update is a recording one. -/
theorem met_of_deriveAcUpdates {entities : List Entity} {session phase : Json}
    {updates : List AcUpdate} (derived : deriveAcUpdates entities session phase = .ok updates) :
    ∀ update ∈ updates, update.met = true := by
  rw [deriveAcUpdates] at derived
  split at derived
  · rcases Except.ok.inj derived with rfl
    simp
  · simp only [Python.bind_eq_ok] at derived
    rcases derived with ⟨_, _, _, _, _, _, derived⟩
    split at derived
    · simp only [Python.bind_eq_ok] at derived
      rcases derived with ⟨named, _, derived⟩
      rcases Except.ok.inj derived with rfl
      intro update member
      rcases List.mem_append.mp member with actors | decisionMaker
      · split at actors <;> simp_all
      · split at decisionMaker <;> simp_all
    · split at derived
      · split at derived <;> rcases Except.ok.inj derived with rfl <;> simp
      · rcases Except.ok.inj derived with rfl
        simp

theorem met_call (state : PipelineState) :
    ∀ update ∈ (call config environment state).acUpdates, update.met = true := by
  apply PipelineState.of_runWithTimeout fun after =>
    ∀ update ∈ after.acUpdates, update.met = true
  · intro after returned
    simp only [extract, Outcome.bind_eq_returns, Outcome.pure_eq_returns] at returned
    rcases returned with ⟨_, _, _, _, _, _, _, _, _, _, _, _, updates, derived, rfl⟩
    exact met_of_deriveAcUpdates (Outcome.ofExcept_eq_returns.mp derived)
  · intro message update member
    cases member

end EntityExtractor

end Chitragupt
