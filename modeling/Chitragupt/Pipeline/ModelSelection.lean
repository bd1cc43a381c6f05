import Chitragupt.Pipeline.ProviderCalls

/-!
# The models of the requests

The factory degrades the tier of a feature as the budget runs out; the nodes name the
model of their requests themselves.
-/

namespace Chitragupt

open Python (PyError Json)

namespace LLMFactory

/-- No override of the feature at the stage changes its model. -/
def KeepsModel (config : OrchestrationConfig) (feature : LLMFeature) (stage : BudgetStage) :
    Prop :=
  ∀ tier, budgetOverrides.lookup (feature, stage) = some (some tier) →
    config.modelId tier = config.modelId (configuredTier config.models.functionMap feature)

/-- Where nothing is overridden the configured tier is resolved. -/
theorem resolveTier_of_not_overridden {config : OrchestrationConfig} {feature : LLMFeature}
    {stage : BudgetStage}
    (kept : ∀ tier, budgetOverrides.lookup (feature, stage) ≠ some (some tier)) :
    resolveTier feature stage config = configuredTier config.models.functionMap feature := by
  unfold resolveTier
  split
  next tier overridden => exact absurd overridden (kept tier)
  next => rfl

/-- The tier that the factory resolves and the configured one name the same model where
the model is kept. -/
theorem modelId_resolveTier_iff {config : OrchestrationConfig} {feature : LLMFeature}
    {stage : BudgetStage} :
    config.modelId (resolveTier feature stage config) =
        config.modelId (configuredTier config.models.functionMap feature) ↔
      KeepsModel config feature stage := by
  by_cases overridden : ∃ tier, budgetOverrides.lookup (feature, stage) = some (some tier)
  · obtain ⟨tier, overridden⟩ := overridden
    rw [resolveTier, KeepsModel, overridden]
    constructor
    · intro same other found
      cases found
      exact same
    · intro kept
      exact kept tier rfl
  · rw [not_exists] at overridden
    rw [resolveTier_of_not_overridden overridden]
    exact iff_of_true rfl fun tier found => absurd found (overridden tier)

/-- A session that has spent little is served as configured. -/
theorem keepsModel_normal (config : OrchestrationConfig) (feature : LLMFeature) :
    KeepsModel config feature .normal := by
  intro tier overridden
  cases feature <;> cases overridden

/-- The features that are on the cheapest tier anyway have no override. -/
theorem keepsModel_of_cheap (config : OrchestrationConfig) {feature : LLMFeature}
    (cheap : feature = .intentClassification ∨ feature = .dataTransformation)
    (stage : BudgetStage) : KeepsModel config feature stage := by
  intro tier overridden
  rcases cheap with rfl | rfl <;> cases stage <;> cases overridden

end LLMFactory

namespace PipelineNode

variable [Runtime] [Rendering] {config : OrchestrationConfig} {environment : Environment}

/-- A request names the model of the configured tier of the feature. -/
theorem modelId_of_request {node : PipelineNode} {state : PipelineState} {request : LlmRequest}
    {feature : LLMFeature} (asked : node.request config environment state = some request)
    (wanted : node.feature state = some feature) :
    config.modelId (LLMFactory.configuredTier config.models.functionMap feature) =
      .ok request.model := by
  unfold PipelineNode.request at asked
  split at asked
  · cases asked
  · cases node with
    | retrieveContext | handleRevisit => cases asked
    | classifyIntent =>
        cases wanted
        simp only [Python.toOption_eq_some, IntentClassifier.request, Python.bind_eq_ok,
          Python.pure_eq_ok] at asked
        rcases asked with ⟨_, _, model, named, _, _, rfl⟩
        exact named
    | extractEntities =>
        cases wanted
        simp only [Python.toOption_eq_some, EntityExtractor.request, Python.bind_eq_ok,
          Python.pure_eq_ok] at asked
        rcases asked with ⟨_, _, model, named, _, _, _, _, rfl⟩
        exact named
    | analyzeGaps =>
        cases wanted
        simp only [Python.toOption_eq_some, GapAnalyzer.request, Python.bind_eq_ok,
          Python.pure_eq_ok] at asked
        rcases asked with ⟨_, _, _, _, model, named, _, _, _, _, _, _, rfl⟩
        exact named
    | generateGuidance =>
        rw [Python.toOption_eq_some, GuidanceGenerator.buildRequest] at asked
        rw [PipelineNode.feature] at wanted
        split at wanted
        next signOff =>
          cases wanted
          simp only [if_pos signOff, Python.bind_eq_ok, Python.pure_eq_ok] at asked
          rcases asked with ⟨_, _, model, named, _, _, _, _, rfl⟩
          exact named
        next before =>
          cases wanted
          simp only [if_neg before, Python.bind_eq_ok, Python.pure_eq_ok] at asked
          rcases asked with ⟨_, _, model, named, _, _, _, _, rfl⟩
          exact named

/-- A request names the model of the degraded tier where the degradation keeps the
model. -/
theorem request_degraded_iff {node : PipelineNode} {state : PipelineState}
    {request : LlmRequest} {feature : LLMFeature}
    (asked : node.request config environment state = some request)
    (wanted : node.feature state = some feature) :
    config.modelId (LLMFactory.resolveTier feature state.llmCtx.budget.stage config) =
        .ok request.model ↔
      LLMFactory.KeepsModel config feature state.llmCtx.budget.stage := by
  rw [← modelId_of_request asked wanted]
  exact LLMFactory.modelId_resolveTier_iff

end PipelineNode

/-! ### A contribution near the limit -/

section Sample

attribute [local instance] referenceRuntime referenceRendering

/-- The guidance of a turn after 4.60 dollars. -/
def sampleCritical : PipelineState :=
  PipelineExecutor.initialState (.dict []) (.ofString "Go on.")
    { sessionState := .dict []
      budget := { sessionId := [], workspaceId := none, spentUsd := .finite (23 / 5),
                  limitUsd := BudgetTracker.defaultLimitUsd }
      config := {} }

theorem sampleCritical_stage : sampleCritical.llmCtx.budget.stage = .critical := by
  decide +kernel

/-- The classifier asks for the model that the factory has in mind. -/
theorem request_degraded_sampleCritical :
    ∃ request,
      PipelineNode.request {} sampleEnvironment .classifyIntent sampleCritical = some request ∧
      OrchestrationConfig.modelId {} (LLMFactory.resolveTier .intentClassification
        sampleCritical.llmCtx.budget.stage {}) = .ok request.model := by
  have asked : (PipelineNode.request {} sampleEnvironment .classifyIntent
      sampleCritical).isSome = true := by
    decide +kernel
  obtain ⟨request, asked⟩ := Option.isSome_iff_exists.mp asked
  exact ⟨request, asked, (PipelineNode.request_degraded_iff asked rfl).mpr
    (LLMFactory.keepsModel_of_cheap {} (.inl rfl) _)⟩

/-- The guidance asks for the model that it asks for on a full budget. -/
theorem not_request_degraded :
    ¬∀ (config : OrchestrationConfig) (environment : Environment) (node : PipelineNode)
        (state : PipelineState) (request : LlmRequest) (feature : LLMFeature),
        node.request config environment state = some request →
        node.feature state = some feature →
      config.modelId (LLMFactory.resolveTier feature state.llmCtx.budget.stage config) =
        .ok request.model := by
  intro all
  have asked : (PipelineNode.request {} sampleEnvironment .generateGuidance
      sampleCritical).isSome = true := by
    decide +kernel
  obtain ⟨request, asked⟩ := Option.isSome_iff_exists.mp asked
  have degraded := all {} sampleEnvironment .generateGuidance sampleCritical request
    .requirementRefinement asked rfl
  rw [← PipelineNode.modelId_of_request asked rfl] at degraded
  have kept := LLMFactory.modelId_resolveTier_iff.mp degraded "fast"
  rw [sampleCritical_stage] at kept
  exact absurd (kept rfl) (by decide)

end Sample

end Chitragupt
