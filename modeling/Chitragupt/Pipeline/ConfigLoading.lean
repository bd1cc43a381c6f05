import Chitragupt.Lib.Schema
import Chitragupt.Pipeline.Context
import Mathlib.Logic.Equiv.Defs

/-!
# Loading the configuration

Each class of the configuration declares its fields with a type and a default.  Loading the
YAML mapping keeps the entries at declared paths and ignores the others, so the three
spellings of the nested keys, in the file, in the classes and at the lookups, are compared
path by path.
-/

namespace Chitragupt

/-! ## Values of the file -/

/-- A scalar of a YAML document. -/
inductive Scalar where
  | null
  | bool (value : Bool)
  | int (value : Int)
  | float (value : ExactFloat)
  | str (value : String)
  deriving DecidableEq

/-- The types that the fields are declared with. -/
inductive LeafKind where
  | bool
  | int
  | float
  | str
  deriving DecidableEq

namespace LeafKind

@[reducible] def Carrier : LeafKind → Type
  | .bool => Bool
  | .int => Int
  | .float => ExactFloat
  | .str => String

def scalar : (kind : LeafKind) → kind.Carrier → Scalar
  | .bool, value => .bool value
  | .int, value => .int value
  | .float, value => .float value
  | .str, value => .str value

end LeafKind

abbrev YamlDocument := NamedTree Scalar

abbrev ConfigSchema := Schema LeafKind.Carrier

/-- The conversion of a scalar to a field's type by the validation library. -/
abbrev ScalarConversion := LeafConversion LeafKind.scalar

namespace ConfigSchema

def bool (default : Bool) : ConfigSchema := .leaf ⟨.bool, default⟩

def int (default : Int) : ConfigSchema := .leaf ⟨.int, default⟩

def float (default : ExactFloat) : ConfigSchema := .leaf ⟨.float, default⟩

def str (default : String) : ConfigSchema := .leaf ⟨.str, default⟩

end ConfigSchema

open ConfigSchema (bool int float str)

/-! ## Fields of the classes

The fields that each class declares, and the class as the object of these fields.  A section
without an entry in the file is built by its class, from that class's own defaults. -/

def PipelineTimeouts.schema : ConfigSchema :=
  let defaults : PipelineTimeouts := {}
  .branch
    [ ("intent_classifier", int defaults.intentClassifier),
      ("entity_extractor", int defaults.entityExtractor),
      ("rag_retrieval", int defaults.ragRetrieval),
      ("gap_analyzer", int defaults.gapAnalyzer),
      ("guidance_generator", int defaults.guidanceGenerator) ]

def PipelineTimeouts.fields : PipelineTimeouts ≃ PipelineTimeouts.schema.Instance where
  toFun timeouts :=
    (timeouts.intentClassifier, timeouts.entityExtractor, timeouts.ragRetrieval,
      timeouts.gapAnalyzer, timeouts.guidanceGenerator, ())
  invFun := fun (intentClassifier, entityExtractor, ragRetrieval, gapAnalyzer,
      guidanceGenerator, _) =>
    { intentClassifier, entityExtractor, ragRetrieval, gapAnalyzer, guidanceGenerator }
  left_inv _ := rfl
  right_inv _ := rfl

def RetryConfig.schema : ConfigSchema :=
  let defaults : RetryConfig := {}
  .branch
    [ ("max_attempts", int defaults.maxAttempts),
      ("wait_min_seconds", float defaults.waitMinSeconds),
      ("wait_max_seconds", float defaults.waitMaxSeconds),
      ("multiplier", float defaults.multiplier) ]

def RetryConfig.fields : RetryConfig ≃ RetryConfig.schema.Instance where
  toFun config :=
    (config.maxAttempts, config.waitMinSeconds, config.waitMaxSeconds, config.multiplier, ())
  invFun := fun (maxAttempts, waitMinSeconds, waitMaxSeconds, multiplier, _) =>
    { maxAttempts, waitMinSeconds, waitMaxSeconds, multiplier }
  left_inv _ := rfl
  right_inv _ := rfl

def StreamingConfig.schema : ConfigSchema :=
  let defaults : StreamingConfig := {}
  .branch [("token_queue_maxsize", int defaults.tokenQueueMaxsize)]

def StreamingConfig.fields : StreamingConfig ≃ StreamingConfig.schema.Instance where
  toFun config := (config.tokenQueueMaxsize, ())
  invFun := fun (tokenQueueMaxsize, _) => { tokenQueueMaxsize }
  left_inv _ := rfl
  right_inv _ := rfl

def PromptCacheConfig.schema : ConfigSchema :=
  let defaults : PromptCacheConfig := {}
  .branch [("target_cache_ratio", float defaults.targetCacheRatio)]

def PromptCacheConfig.fields : PromptCacheConfig ≃ PromptCacheConfig.schema.Instance where
  toFun config := (config.targetCacheRatio, ())
  invFun := fun (targetCacheRatio, _) => { targetCacheRatio }
  left_inv _ := rfl
  right_inv _ := rfl

def PipelineConfig.schema : ConfigSchema :=
  .branch
    [ ("timeout_ms", PipelineTimeouts.schema),
      ("streaming", StreamingConfig.schema) ]

def PipelineConfig.fields : PipelineConfig ≃ PipelineConfig.schema.Instance where
  toFun config :=
    (PipelineTimeouts.fields config.timeoutMs, StreamingConfig.fields config.streaming, ())
  invFun := fun (timeoutMs, streaming, _) =>
    { timeoutMs := PipelineTimeouts.fields.symm timeoutMs,
      streaming := StreamingConfig.fields.symm streaming }
  left_inv _ := rfl
  right_inv _ := rfl

def OrchestrationSection.schema : ConfigSchema :=
  .branch
    [ ("pipeline", PipelineConfig.schema),
      ("retry", RetryConfig.schema),
      ("prompt_cache", PromptCacheConfig.schema) ]

def OrchestrationSection.fields : OrchestrationSection ≃ OrchestrationSection.schema.Instance where
  toFun orchestration :=
    (PipelineConfig.fields orchestration.pipeline, RetryConfig.fields orchestration.retry,
      PromptCacheConfig.fields orchestration.promptCache, ())
  invFun := fun (pipeline, retry, promptCache, _) =>
    { pipeline := PipelineConfig.fields.symm pipeline, retry := RetryConfig.fields.symm retry,
      promptCache := PromptCacheConfig.fields.symm promptCache }
  left_inv _ := rfl
  right_inv _ := rfl

/-! ### Models -/

def PrimaryModels.schema : ConfigSchema :=
  let defaults : PrimaryModels := {}
  .branch
    [ ("fast", str defaults.fast),
      ("standard", str defaults.standard),
      ("premium", str defaults.premium),
      ("embedding", str defaults.embedding),
      ("stt", str defaults.stt) ]

def PrimaryModels.fields : PrimaryModels ≃ PrimaryModels.schema.Instance where
  toFun primary :=
    (primary.fast, primary.standard, primary.premium, primary.embedding, primary.stt, ())
  invFun := fun (fast, standard, premium, embedding, stt, _) =>
    { fast, standard, premium, embedding, stt }
  left_inv _ := rfl
  right_inv _ := rfl

def FallbackModels.schema : ConfigSchema :=
  let defaults : FallbackModels := {}
  .branch
    [ ("anthropic", str defaults.anthropic),
      ("voyage", str defaults.voyage),
      ("openai_stt", str defaults.openaiStt) ]

def FallbackModels.fields : FallbackModels ≃ FallbackModels.schema.Instance where
  toFun fallback := (fallback.anthropic, fallback.voyage, fallback.openaiStt, ())
  invFun := fun (anthropic, voyage, openaiStt, _) => { anthropic, voyage, openaiStt }
  left_inv _ := rfl
  right_inv _ := rfl

def EmbeddingConfig.schema : ConfigSchema :=
  let defaults : EmbeddingConfig := {}
  .branch
    [ ("dimension", int defaults.dimension),
      ("batch_size", int defaults.batchSize) ]

def EmbeddingConfig.fields : EmbeddingConfig ≃ EmbeddingConfig.schema.Instance where
  toFun config := (config.dimension, config.batchSize, ())
  invFun := fun (dimension, batchSize, _) => { dimension, batchSize }
  left_inv _ := rfl
  right_inv _ := rfl

def FunctionModelMap.schema : ConfigSchema :=
  let defaults : FunctionModelMap := {}
  .branch
    [ ("intent_classification", str defaults.intentClassification),
      ("rag_synthesis", str defaults.ragSynthesis),
      ("visual_understanding", str defaults.visualUnderstanding),
      ("chunk_boundary", str defaults.chunkBoundary),
      ("chunk_metadata", str defaults.chunkMetadata),
      ("embedding", str defaults.embedding),
      ("brd_generation", str defaults.brdGeneration),
      ("data_transformation", str defaults.dataTransformation),
      ("requirement_refinement", str defaults.requirementRefinement),
      ("speech_to_text", str defaults.speechToText),
      ("image_ocr", str defaults.imageOcr),
      ("localization", str defaults.localization) ]

def FunctionModelMap.fields : FunctionModelMap ≃ FunctionModelMap.schema.Instance where
  toFun map :=
    (map.intentClassification, map.ragSynthesis, map.visualUnderstanding, map.chunkBoundary,
      map.chunkMetadata, map.embedding, map.brdGeneration, map.dataTransformation,
      map.requirementRefinement, map.speechToText, map.imageOcr, map.localization, ())
  invFun := fun (intentClassification, ragSynthesis, visualUnderstanding, chunkBoundary,
      chunkMetadata, embedding, brdGeneration, dataTransformation, requirementRefinement,
      speechToText, imageOcr, localization, _) =>
    { intentClassification, ragSynthesis, visualUnderstanding, chunkBoundary, chunkMetadata,
      embedding, brdGeneration, dataTransformation, requirementRefinement, speechToText, imageOcr,
      localization }
  left_inv _ := rfl
  right_inv _ := rfl

def ModelsSection.schema : ConfigSchema :=
  .branch
    [ ("primary", PrimaryModels.schema),
      ("fallback", FallbackModels.schema),
      ("embedding", EmbeddingConfig.schema),
      ("function_map", FunctionModelMap.schema) ]

def ModelsSection.fields : ModelsSection ≃ ModelsSection.schema.Instance where
  toFun models :=
    (PrimaryModels.fields models.primary, FallbackModels.fields models.fallback,
      EmbeddingConfig.fields models.embedding, FunctionModelMap.fields models.functionMap, ())
  invFun := fun (primary, fallback, embedding, functionMap, _) =>
    { primary := PrimaryModels.fields.symm primary,
      fallback := FallbackModels.fields.symm fallback,
      embedding := EmbeddingConfig.fields.symm embedding,
      functionMap := FunctionModelMap.fields.symm functionMap }
  left_inv _ := rfl
  right_inv _ := rfl

/-! ### Budget, degradation, retrieval, ingestion -/

def BudgetConfig.schema : ConfigSchema :=
  let defaults : BudgetConfig := {}
  .branch
    [ ("session_limit_usd", float defaults.sessionLimitUsd),
      ("caution_threshold_usd", float defaults.cautionThresholdUsd),
      ("critical_threshold_usd", float defaults.criticalThresholdUsd),
      ("brd_min_model", str defaults.brdMinModel) ]

def BudgetConfig.fields : BudgetConfig ≃ BudgetConfig.schema.Instance where
  toFun config :=
    (config.sessionLimitUsd, config.cautionThresholdUsd, config.criticalThresholdUsd,
      config.brdMinModel, ())
  invFun := fun (sessionLimitUsd, cautionThresholdUsd, criticalThresholdUsd, brdMinModel, _) =>
    { sessionLimitUsd, cautionThresholdUsd, criticalThresholdUsd, brdMinModel }
  left_inv _ := rfl
  right_inv _ := rfl

def DegradationConfig.schema : ConfigSchema :=
  let defaults : DegradationConfig := {}
  .branch
    [ ("failure_threshold", int defaults.failureThreshold),
      ("provider_circuit_breaker_seconds", int defaults.providerCircuitBreakerSeconds),
      ("provider_health_check_interval_seconds", int defaults.providerHealthCheckIntervalSeconds) ]

def DegradationConfig.fields : DegradationConfig ≃ DegradationConfig.schema.Instance where
  toFun config :=
    (config.failureThreshold, config.providerCircuitBreakerSeconds,
      config.providerHealthCheckIntervalSeconds, ())
  invFun := fun (failureThreshold, providerCircuitBreakerSeconds,
      providerHealthCheckIntervalSeconds, _) =>
    { failureThreshold, providerCircuitBreakerSeconds, providerHealthCheckIntervalSeconds }
  left_inv _ := rfl
  right_inv _ := rfl

def RAGConfig.schema : ConfigSchema :=
  let defaults : RAGConfig := {}
  .branch
    [ ("top_k", int defaults.topK),
      ("bm25_weight", float defaults.bm25Weight),
      ("dense_weight", float defaults.denseWeight),
      ("candidate_pool", int defaults.candidatePool),
      ("rerank_top_k", int defaults.rerankTopK) ]

def RAGConfig.fields : RAGConfig ≃ RAGConfig.schema.Instance where
  toFun config :=
    (config.topK, config.bm25Weight, config.denseWeight, config.candidatePool,
      config.rerankTopK, ())
  invFun := fun (topK, bm25Weight, denseWeight, candidatePool, rerankTopK, _) =>
    { topK, bm25Weight, denseWeight, candidatePool, rerankTopK }
  left_inv _ := rfl
  right_inv _ := rfl

def IngestionConfig.schema : ConfigSchema :=
  let defaults : IngestionConfig := {}
  .branch
    [ ("chunk_size_tokens", int defaults.chunkSizeTokens),
      ("chunk_overlap_tokens", int defaults.chunkOverlapTokens),
      ("min_chunk_tokens", int defaults.minChunkTokens),
      ("pii_scrub_enabled", bool defaults.piiScrubEnabled),
      ("embedding_batch_size", int defaults.embeddingBatchSize) ]

def IngestionConfig.fields : IngestionConfig ≃ IngestionConfig.schema.Instance where
  toFun config :=
    (config.chunkSizeTokens, config.chunkOverlapTokens, config.minChunkTokens,
      config.piiScrubEnabled, config.embeddingBatchSize, ())
  invFun := fun (chunkSizeTokens, chunkOverlapTokens, minChunkTokens, piiScrubEnabled,
      embeddingBatchSize, _) =>
    { chunkSizeTokens, chunkOverlapTokens, minChunkTokens, piiScrubEnabled, embeddingBatchSize }
  left_inv _ := rfl
  right_inv _ := rfl

def OrchestrationConfig.schema : ConfigSchema :=
  .branch
    [ ("orchestration", OrchestrationSection.schema),
      ("models", ModelsSection.schema),
      ("budget", BudgetConfig.schema),
      ("degradation", DegradationConfig.schema),
      ("rag", RAGConfig.schema),
      ("ingestion", IngestionConfig.schema) ]

def OrchestrationConfig.fields : OrchestrationConfig ≃ OrchestrationConfig.schema.Instance where
  toFun config :=
    (OrchestrationSection.fields config.orchestration, ModelsSection.fields config.models,
      BudgetConfig.fields config.budget, DegradationConfig.fields config.degradation,
      RAGConfig.fields config.rag, IngestionConfig.fields config.ingestion, ())
  invFun := fun (orchestration, models, budget, degradation, rag, ingestion, _) =>
    { orchestration := OrchestrationSection.fields.symm orchestration,
      models := ModelsSection.fields.symm models, budget := BudgetConfig.fields.symm budget,
      degradation := DegradationConfig.fields.symm degradation, rag := RAGConfig.fields.symm rag,
      ingestion := IngestionConfig.fields.symm ingestion }
  left_inv _ := rfl
  right_inv _ := rfl

/-! ## The file -/

/-- `config/orchestration.yaml`: its keys, and the value and kind of every leaf. -/
def orchestrationYaml : ConfigSchema :=
  .branch
    [ ("orchestration", .branch
        [ ("pipeline", .branch
            [ ("timeout_ms", .branch
                [ ("intent_classifier", int 800),
                  ("entity_extractor", int 1500),
                  ("rag_retrieval", int 1000),
                  ("gap_analyzer", int 3000),
                  ("guidance_generator", int 20000) ]) ]),
          ("retry", .branch
            [ ("max_attempts", int 3),
              ("wait_min_seconds", float (.finite (1 / 2))),
              ("wait_max_seconds", float (.finite 4)),
              ("multiplier", float (.finite (1 / 2))) ]),
          ("streaming", .branch [("token_queue_maxsize", int 256)]),
          ("prompt_cache", .branch [("target_cache_ratio", float (.finite (4 / 5)))]) ]),
      ("models", .branch
        [ ("primary", .branch
            [ ("fast", str "anthropic/claude-haiku-4.5"),
              ("standard", str "anthropic/claude-sonnet-4.6"),
              ("premium", str "anthropic/claude-opus-4.7"),
              ("embedding", str "google/gemini-embedding-001"),
              ("stt", str "openai/whisper-1") ]),
          ("fallback", .branch
            [ ("anthropic", str "google/gemini-2.5-flash"),
              ("embedding", str "openai/text-embedding-3-large"),
              ("openai_stt", str "google/gemini-2.5-flash") ]),
          ("embedding", .branch [("dimension", int 3072), ("batch_size", int 128)]),
          ("function_map", .branch
            [ ("intent_classification", str "fast"),
              ("rag_synthesis", str "fast"),
              ("visual_understanding", str "standard"),
              ("chunk_boundary", str "fast"),
              ("chunk_metadata", str "fast"),
              ("embedding", str "embedding"),
              ("brd_generation", str "premium"),
              ("data_transformation", str "fast"),
              ("requirement_refinement", str "standard"),
              ("speech_to_text", str "stt"),
              ("image_ocr", str "standard"),
              ("localization", str "fast") ]) ]),
      ("budget", .branch
        [ ("session_limit_usd", float (.finite 5)),
          ("caution_threshold_usd", float (.finite 3)),
          ("critical_threshold_usd", float (.finite (9 / 2))),
          ("brd_min_model", str "standard") ]),
      ("degradation", .branch
        [ ("failure_threshold", int 3),
          ("provider_circuit_breaker_seconds", int 60),
          ("provider_health_check_interval_seconds", int 60) ]),
      ("rag", .branch
        [ ("top_k", int 20),
          ("bm25_weight", float (.finite (3 / 10))),
          ("dense_weight", float (.finite (7 / 10))),
          ("candidate_pool", int 50),
          ("rerank_top_k", int 10) ]),
      ("ingestion", .branch
        [ ("chunk_size_tokens", int 512),
          ("chunk_overlap_tokens", int 64),
          ("min_chunk_tokens", int 50),
          ("pii_scrub_enabled", bool true),
          ("embedding_batch_size", int 128) ]) ]

/-- A mapping with the keys of the file, and a value of the same kind at every leaf. -/
def HasFileStructure (document : YamlDocument) : Prop :=
  Schema.Matches LeafKind.scalar (Schema.layout orchestrationYaml) document

/-! ## Loading -/

namespace OrchestrationConfig

/-- `model_validate`: the typed configuration, or the entries that were refused. -/
def modelValidate (conversion : ScalarConversion) (document : YamlDocument) :
    Except Schema.Refused OrchestrationConfig :=
  (Schema.validate conversion schema document).map fields.symm

/-- The value of an attribute path; it is missing where a class declares no such field. -/
def readPath (config : OrchestrationConfig) (path : List String) : Option Scalar :=
  Schema.read LeafKind.scalar schema (fields config) path

/-! ## Lookups of the pipeline -/

def tokenQueueMaxsizePath : List String := ["orchestration", "streaming", "token_queue_maxsize"]

/-- The paths that the nodes, the executor and the ingestion pipeline read: the timeouts of
the nodes, the size of the token queue, the tier of each feature, the model of each tier, the
weights of the retrieval and the settings of the ingestion. -/
def attributeReads : List (List String) :=
  ["intent_classifier", "entity_extractor", "rag_retrieval", "gap_analyzer",
      "guidance_generator"].map (["orchestration", "pipeline", "timeout_ms", ·]) ++
    [tokenQueueMaxsizePath] ++
    ["intent_classification", "rag_synthesis", "visual_understanding", "chunk_boundary",
      "chunk_metadata", "embedding", "brd_generation", "data_transformation",
      "requirement_refinement", "speech_to_text", "image_ocr", "localization"].map
        (["models", "function_map", ·]) ++
    ["fast", "standard", "premium", "embedding", "stt"].map (["models", "primary", ·]) ++
    ["dense_weight", "bm25_weight", "top_k"].map (["rag", ·]) ++
    ["chunk_size_tokens", "chunk_overlap_tokens", "min_chunk_tokens", "pii_scrub_enabled",
      "embedding_batch_size"].map (["ingestion", ·])

/-- The lookup of the executor fails on every configuration. -/
theorem readPath_tokenQueueMaxsizePath (config : OrchestrationConfig) :
    config.readPath tokenQueueMaxsizePath =
      config.orchestration.tokenQueueMaxsize.toOption.map .int := rfl

/-- `model_id` reads the attribute that the tier names, if there is one. -/
theorem readPath_modelId (config : OrchestrationConfig) (tier : String) :
    config.readPath ["models", "primary", tier] = (config.modelId tier).toOption.map .str := by
  unfold modelId
  split
  all_goals try rfl
  next fast standard premium embedding stt =>
    have declared := Schema.isSome_read LeafKind.scalar schema (fields config)
      ["models", "primary", tier]
    change (config.readPath _).isSome = (PrimaryModels.schema.leafAt [tier]).isSome at declared
    cases found : PrimaryModels.schema.leafAt [tier] with
    | none =>
        rw [found] at declared
        exact Option.not_isSome_iff_eq_none.mp (by rw [declared]; exact Bool.false_ne_true)
    | some leaf =>
        have known : [tier] ∈ [["fast"], ["standard"], ["premium"], ["embedding"], ["stt"]] :=
          NamedTree.mem_leafPaths _ found
        simp only [List.mem_cons, List.cons.injEq, and_true, List.not_mem_nil, or_false] at known
        rcases known with known | known | known | known | known
        exacts [(fast known).elim, (standard known).elim, (premium known).elim,
          (embedding known).elim, (stt known).elim]

theorem readPath_configuredTier (config : OrchestrationConfig) (feature : LLMFeature) :
    config.readPath ["models", "function_map", feature.value] =
      some (.str (LLMFactory.configuredTier config.models.functionMap feature)) := by
  cases feature <;> rfl

/-! ## Faithful loading -/

/-- Loading keeps every leaf of the document at its path, and every lookup of the pipeline
yields the value that the document gives. -/
def LoadsFaithfully (conversion : ScalarConversion) (document : YamlDocument) : Prop :=
  ∃ config, modelValidate conversion document = .ok config ∧
    (∀ path value, document.leafAt path = some value → config.readPath path = some value) ∧
    ∀ path ∈ attributeReads, ∃ value,
      document.leafAt path = some value ∧ config.readPath path = some value

/-- The leaves of the file that no class declares. -/
def droppedPaths : List (List String) :=
  [tokenQueueMaxsizePath, ["models", "fallback", "embedding"]]

theorem agrees_orchestrationYaml :
    Schema.agrees schema (Schema.layout orchestrationYaml) = true := by decide

theorem isSome_leafAt_schema {path : List String}
    (inFile : path ∈ (Schema.layout orchestrationYaml).leafPaths) :
    (schema.leafAt path).isSome ↔ path ∉ droppedPaths := by
  revert path
  decide

theorem mem_droppedPaths_of_read {path : List String} (isRead : path ∈ attributeReads) :
    path ∈ droppedPaths ↔ path = tokenQueueMaxsizePath := by
  revert path
  decide

theorem isSome_leafAt_layout {path : List String} (isRead : path ∈ attributeReads) :
    ((Schema.layout orchestrationYaml).leafAt path).isSome := by
  revert path
  decide

/-- A mapping of the file's structure is accepted; its leaves are kept at their paths except
the two that no class declares. -/
theorem exists_modelValidate (conversion : ScalarConversion) {document : YamlDocument}
    (structured : HasFileStructure document) :
    ∃ config, modelValidate conversion document = .ok config ∧
      ∀ path value, document.leafAt path = some value →
        config.readPath path = if path ∈ droppedPaths then none else some value := by
  obtain ⟨object, accepted, kept⟩ :=
    Schema.exists_validate_of_matches conversion agrees_orchestrationYaml structured
  refine ⟨fields.symm object, by rw [modelValidate, accepted]; rfl, fun path value given => ?_⟩
  have inFile : path ∈ (Schema.layout orchestrationYaml).leafPaths := by
    have there := Schema.leafAt_of_matches structured path
    cases found : (Schema.layout orchestrationYaml).leafAt path with
    | none => simp [found, given] at there
    | some kind => exact NamedTree.mem_leafPaths _ found
  rw [readPath, Equiv.apply_symm_apply, kept path value given]
  simp only [isSome_leafAt_schema inFile, ite_not]

/-- A mapping of the file's structure gives a value for every lookup. -/
theorem exists_leafAt_of_read {document : YamlDocument} (structured : HasFileStructure document)
    {path : List String} (isRead : path ∈ attributeReads) :
    ∃ value, document.leafAt path = some value := by
  obtain ⟨kind, found⟩ := Option.isSome_iff_exists.mp (isSome_leafAt_layout isRead)
  have there := Schema.leafAt_of_matches structured path
  rw [found] at there
  obtain ⟨value, given⟩ := there
  exact ⟨_, given⟩

theorem not_loadsFaithfully (conversion : ScalarConversion) {document : YamlDocument} :
    ¬LoadsFaithfully conversion document := by
  rintro ⟨config, -, -, reads⟩
  obtain ⟨value, -, read⟩ := reads tokenQueueMaxsizePath (by decide)
  rw [readPath_tokenQueueMaxsizePath, OrchestrationSection.tokenQueueMaxsize_eq] at read
  cases read

/-- No mapping of the file's structure is loaded faithfully: exactly the size of the token
queue and the fallback of the embeddings are dropped, and the executor's lookup of the first
fails; every other leaf is kept, and every other lookup yields the value of the mapping. -/
theorem modelValidate_unfaithful (conversion : ScalarConversion) {document : YamlDocument}
    (structured : HasFileStructure document) :
    ¬LoadsFaithfully conversion document ∧
      ∃ config, modelValidate conversion document = .ok config ∧
        (∀ path value, document.leafAt path = some value →
          (config.readPath path = some value ↔ path ∉ droppedPaths)) ∧
        ∀ path ∈ attributeReads, ∃ value, document.leafAt path = some value ∧
          (config.readPath path = some value ↔ path ≠ tokenQueueMaxsizePath) := by
  obtain ⟨config, accepted, kept⟩ := exists_modelValidate conversion structured
  have keptIff : ∀ path value, document.leafAt path = some value →
      (config.readPath path = some value ↔ path ∉ droppedPaths) := by
    intro path value given
    rw [kept path value given]
    split
    next dropped => simp [dropped]
    next remains => simp [remains]
  refine ⟨not_loadsFaithfully conversion, config, accepted, keptIff, fun path isRead => ?_⟩
  obtain ⟨value, given⟩ := exists_leafAt_of_read structured isRead
  refine ⟨value, given, (keptIff path value given).trans (not_congr ?_)⟩
  exact mem_droppedPaths_of_read isRead

/-- A conversion that accepts the values of the declared type only. -/
def exactConversion : ScalarConversion where
  convert
    | .bool, .bool value => some value
    | .int, .int value => some value
    | .float, .float value => some value
    | .str, .str value => some value
    | _, _ => none
  convert_embed kind value := by cases kind <;> rfl

/-- The file as it stands. -/
def sampleDocument : YamlDocument := Schema.document LeafKind.scalar orchestrationYaml

theorem hasFileStructure_sampleDocument : HasFileStructure sampleDocument :=
  Schema.matches_document orchestrationYaml

theorem modelValidate_unfaithful_sampleDocument :
    ∃ config, modelValidate exactConversion sampleDocument = .ok config ∧
      config.readPath ["models", "primary", "fast"] =
        some (.str "anthropic/claude-haiku-4.5") := by
  obtain ⟨-, config, accepted, kept, -⟩ :=
    modelValidate_unfaithful exactConversion hasFileStructure_sampleDocument
  exact ⟨config, accepted, (kept ["models", "primary", "fast"] _ rfl).mpr (by decide)⟩

/-- The file itself is not loaded faithfully. -/
theorem not_loadsFaithfully_of_sampleDocument :
    ¬∀ (conversion : ScalarConversion) (document : YamlDocument),
      HasFileStructure document → LoadsFaithfully conversion document := by
  intro faithful
  exact not_loadsFaithfully exactConversion
    (faithful exactConversion sampleDocument hasFileStructure_sampleDocument)

end OrchestrationConfig

end Chitragupt
