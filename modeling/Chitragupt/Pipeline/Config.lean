import Chitragupt.Lib.Python

/-!
# Configuration of the orchestration service

The typed sections that `orchestration.yaml` is loaded into, with their defaults.
A section has the attributes that its class declares; reading any other one raises.
-/

namespace Chitragupt

open Python (PyError)

structure PipelineTimeouts where
  intentClassifier : Int := 800
  entityExtractor : Int := 1500
  ragRetrieval : Int := 1000
  gapAnalyzer : Int := 3000
  guidanceGenerator : Int := 20000

structure RetryConfig where
  maxAttempts : Int := 3
  waitMinSeconds : ExactFloat := .finite (1 / 2)
  waitMaxSeconds : ExactFloat := .finite 4
  multiplier : ExactFloat := .finite (1 / 2)

structure StreamingConfig where
  tokenQueueMaxsize : Int := 256

structure PromptCacheConfig where
  targetCacheRatio : ExactFloat := .finite (4 / 5)

structure PipelineConfig where
  timeoutMs : PipelineTimeouts := {}
  streaming : StreamingConfig := {}

structure OrchestrationSection where
  pipeline : PipelineConfig := {}
  retry : RetryConfig := {}
  promptCache : PromptCacheConfig := {}

/-! ## Models -/

structure PrimaryModels where
  fast : String := "claude-haiku-4-5-20251001"
  standard : String := "claude-sonnet-4-6"
  premium : String := "claude-opus-4-7"
  embedding : String := "voyage-large-2"
  stt : String := "whisper-1"

structure FallbackModels where
  anthropic : String := "gemini-2.0-flash"
  voyage : String := "text-embedding-3-small"
  openaiStt : String := "gemini-2.0-flash"

structure EmbeddingConfig where
  dimension : Int := 1536
  batchSize : Int := 128

structure FunctionModelMap where
  intentClassification : String := "fast"
  ragSynthesis : String := "fast"
  visualUnderstanding : String := "standard"
  chunkBoundary : String := "fast"
  chunkMetadata : String := "fast"
  embedding : String := "embedding"
  brdGeneration : String := "premium"
  dataTransformation : String := "fast"
  requirementRefinement : String := "standard"
  speechToText : String := "stt"
  imageOcr : String := "standard"
  localization : String := "fast"

structure ModelsSection where
  primary : PrimaryModels := {}
  fallback : FallbackModels := {}
  embedding : EmbeddingConfig := {}
  functionMap : FunctionModelMap := {}

/-! ## Budget, degradation, retrieval, ingestion -/

structure BudgetConfig where
  sessionLimitUsd : ExactFloat := .finite 5
  cautionThresholdUsd : ExactFloat := .finite 3
  criticalThresholdUsd : ExactFloat := .finite (9 / 2)
  brdMinModel : String := "standard"

structure DegradationConfig where
  failureThreshold : Int := 3
  providerCircuitBreakerSeconds : Int := 60
  providerHealthCheckIntervalSeconds : Int := 60

structure RAGConfig where
  topK : Int := 20
  bm25Weight : ExactFloat := .finite (3 / 10)
  denseWeight : ExactFloat := .finite (7 / 10)
  candidatePool : Int := 50
  rerankTopK : Int := 10

structure IngestionConfig where
  chunkSizeTokens : Int := 512
  chunkOverlapTokens : Int := 64
  minChunkTokens : Int := 50
  piiScrubEnabled : Bool := true
  embeddingBatchSize : Int := 128

structure OrchestrationConfig where
  orchestration : OrchestrationSection := {}
  models : ModelsSection := {}
  budget : BudgetConfig := {}
  degradation : DegradationConfig := {}
  rag : RAGConfig := {}
  ingestion : IngestionConfig := {}

/-! ## Attribute lookups -/

def noAttribute (className name : String) : PyError :=
  .attributeError s!"'{className}' object has no attribute '{name}'"

namespace OrchestrationSection

/-- The attributes of the section. -/
inductive Attr where
  | pipeline (value : PipelineConfig)
  | retry (value : RetryConfig)
  | promptCache (value : PromptCacheConfig)

/-- An attribute of the section by name. -/
def getattr (orchestration : OrchestrationSection) (name : String) :
    Except PyError Attr :=
  match name with
  | "pipeline" => .ok (.pipeline orchestration.pipeline)
  | "retry" => .ok (.retry orchestration.retry)
  | "prompt_cache" => .ok (.promptCache orchestration.promptCache)
  | other => .error (noAttribute "OrchestrationSection" other)

/-- `token_queue_maxsize` of an attribute: no class of the section's attributes
declares it. -/
def Attr.tokenQueueMaxsize : Attr → Except PyError Int
  | .pipeline _ => .error (noAttribute "PipelineConfig" "token_queue_maxsize")
  | .retry _ => .error (noAttribute "RetryConfig" "token_queue_maxsize")
  | .promptCache _ => .error (noAttribute "PromptCacheConfig" "token_queue_maxsize")

/-- The lookup `orchestration.streaming.token_queue_maxsize` of the executor. -/
def tokenQueueMaxsize (orchestration : OrchestrationSection) : Except PyError Int := do
  let streaming ← orchestration.getattr "streaming"
  streaming.tokenQueueMaxsize

/-- The streaming settings are kept one level deeper, so the lookup always raises. -/
theorem tokenQueueMaxsize_eq (orchestration : OrchestrationSection) :
    orchestration.tokenQueueMaxsize =
      .error (noAttribute "OrchestrationSection" "streaming") := rfl

end OrchestrationSection

/-- Resolve a tier name to a pinned model ID. -/
def OrchestrationConfig.modelId (config : OrchestrationConfig) (tier : String) :
    Except PyError String :=
  match tier with
  | "fast" => .ok config.models.primary.fast
  | "standard" => .ok config.models.primary.standard
  | "premium" => .ok config.models.primary.premium
  | "embedding" => .ok config.models.primary.embedding
  | "stt" => .ok config.models.primary.stt
  | other => .error (noAttribute "PrimaryModels" other)

end Chitragupt
