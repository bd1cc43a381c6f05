import Chitragupt.Pipeline.WriteSets

/-!
# Calls to the providers

The nodes of a run ask models for text, and the retrieval node has the message embedded.
The clients of the models come from the context, which refuses them once the budget is
exhausted; the embedder has a client of its own.
-/

namespace Chitragupt

open Python (PyError Json)

/-- A call to a provider. -/
inductive ProviderCall where
  | generate (request : LlmRequest)
  | embed (query : Text)

namespace PipelineNode

variable [Runtime] [Rendering] (config : OrchestrationConfig) (environment : Environment)
  (embedder : Except PyError Unit)

/-- The request of a node that gets as far as to make one. -/
def request (node : PipelineNode) (state : PipelineState) : Option LlmRequest :=
  if node.expired config then none
  else
    match node with
    | .classifyIntent => (IntentClassifier.request config environment state).toOption
    | .extractEntities => (EntityExtractor.request config environment state).toOption
    | .analyzeGaps =>
        -- The default of this node comes before its request, and may raise.
        (do
          let _default ← GapAnalyzer.deterministicFallback state.llmCtx.currentPhase
            state.sessionState
          GapAnalyzer.request config environment state).toOption
    | .generateGuidance => (GuidanceGenerator.buildRequest config environment state).toOption
    | .retrieveContext | .handleRevisit => none

/-- The text that a node has embedded, if the client of the embedder can be constructed. -/
def query (node : PipelineNode) (state : PipelineState) : Option Text :=
  if node.expired config then none
  else
    match node with
    | .retrieveContext =>
        (RagRetrieval.request config state).bind fun request =>
          embedder.toOption.map fun _ => request.query
    | _ => none

/-- The calls that a node makes. -/
def calls (node : PipelineNode) (state : PipelineState) : List ProviderCall :=
  (node.request config environment state).toList.map .generate ++
    (node.query config embedder state).toList.map .embed

theorem calls_eq_nil {node : PipelineNode} {state : PipelineState} :
    node.calls config environment embedder state = [] ↔
      node.request config environment state = none ∧
        node.query config embedder state = none := by
  rw [calls, List.append_eq_nil_iff, List.map_eq_nil_iff, List.map_eq_nil_iff,
    Option.toList_eq_nil_iff, Option.toList_eq_nil_iff]

/-! ### The calls are all that a node asks for -/

variable {config environment embedder} {reply : LlmRequest → Outcome (Option Text)}
  {stream : LlmRequest → TokenStream} {search : RetrievalRequest → Outcome (List ChunkRef)}

/-- Providers and database answer the calls of a node as those of the environment do.  A
search whose text cannot be embedded fails. -/
structure AnswersAlike (config : OrchestrationConfig) (environment : Environment)
    (embedder : Except PyError Unit) (reply : LlmRequest → Outcome (Option Text))
    (stream : LlmRequest → TokenStream) (search : RetrievalRequest → Outcome (List ChunkRef))
    (node : PipelineNode) (state : PipelineState) : Prop where
  generated : ∀ request, node.request config environment state = some request →
    reply request = environment.reply request ∧ stream request = environment.stream request
  embedded : ∀ request : RetrievalRequest,
    node.query config embedder state = some request.query →
      search request = environment.search request
  unembedded : ∀ error, embedder = .error error → ∀ request : RetrievalRequest,
    search request = .raises error ∧ environment.search request = .raises error

omit [Runtime] [Rendering] in
theorem runWithTimeout_congr {className : String} {timeoutMs : Int}
    {outcome other : Outcome PipelineState} {state default : PipelineState}
    (same : ¬timeoutMs ≤ 0 → other = outcome) :
    state.runWithTimeout className timeoutMs other default =
      state.runWithTimeout className timeoutMs outcome default := by
  unfold PipelineState.runWithTimeout
  dsimp only
  split
  next => rfl
  next running => rw [same running]

omit [Runtime] [Rendering] in
/-- A request that is made is answered alike. -/
theorem ofExcept_bind_congr {α : Type} {made : Except PyError LlmRequest}
    (same : ∀ request, made = .ok request → reply request = environment.reply request)
    (next : Option Text → Outcome α) :
    (Outcome.ofExcept made >>= fun request => reply request >>= next) =
      Outcome.ofExcept made >>= fun request => environment.reply request >>= next := by
  cases made with
  | error error => rfl
  | ok request =>
      change reply request >>= next = environment.reply request >>= next
      rw [same request rfl]

/-- What a node makes of a state depends on the answers to its calls and on no others. -/
theorem call_congr {node : PipelineNode} {state : PipelineState}
    (alike : AnswersAlike config environment embedder reply stream search node state) :
    node.call config { environment with reply, stream, search } state =
      node.call config environment state := by
  cases node with
  | handleRevisit => rfl
  | classifyIntent =>
      apply congrArg Outcome.returns
      apply runWithTimeout_congr
      intro running
      rw [IntentClassifier.classify_eq, IntentClassifier.classify_eq]
      refine ofExcept_bind_congr (fun request made => (alike.generated request ?_).1) _
      rw [PipelineNode.request, expired, timeoutMs, Option.elim_some, decide_eq_false running]
      exact congrArg Except.toOption made
  | extractEntities =>
      apply congrArg Outcome.returns
      apply runWithTimeout_congr
      intro running
      rw [EntityExtractor.extract_eq, EntityExtractor.extract_eq]
      refine ofExcept_bind_congr (fun request made => (alike.generated request ?_).1) _
      rw [PipelineNode.request, expired, timeoutMs, Option.elim_some, decide_eq_false running]
      exact congrArg Except.toOption made
  | retrieveContext =>
      apply congrArg Outcome.returns
      apply runWithTimeout_congr
      intro running
      rw [RagRetrieval.retrieve_eq, RagRetrieval.retrieve_eq]
      cases made : RagRetrieval.request config state with
      | none => rfl
      | some request =>
          have same : search request = environment.search request := by
            cases client : embedder with
            | error error =>
                obtain ⟨failed, failed'⟩ := alike.unembedded error client request
                rw [failed, failed']
            | ok _ =>
                apply alike.embedded
                rw [query, expired, timeoutMs, Option.elim_some, decide_eq_false running, made,
                  client]
                rfl
          simp only [Option.elim_some, same]
  | analyzeGaps =>
      apply congrArg Outcome.ofExcept
      rw [GapAnalyzer.call, GapAnalyzer.call]
      cases computed : GapAnalyzer.deterministicFallback state.llmCtx.currentPhase
          state.sessionState with
      | error error => rfl
      | ok gap =>
          apply congrArg Except.ok
          apply runWithTimeout_congr
          intro running
          rw [GapAnalyzer.analyze, GapAnalyzer.analyze, GapAnalyzer.readGap_eq,
            GapAnalyzer.readGap_eq]
          refine congrArg (· >>= _) ?_
          refine ofExcept_bind_congr (fun request made => (alike.generated request ?_).1) _
          rw [PipelineNode.request, expired, timeoutMs, Option.elim_some,
            decide_eq_false running, if_neg Bool.false_ne_true, computed]
          exact congrArg Except.toOption made
  | generateGuidance =>
      have same : GuidanceGenerator.generate config { environment with reply, stream, search }
          state = GuidanceGenerator.generate config environment state := by
        have built : GuidanceGenerator.buildRequest config
            { environment with reply, stream, search } state =
              GuidanceGenerator.buildRequest config environment state := rfl
        rw [GuidanceGenerator.generate, GuidanceGenerator.generate, built]
        cases made : GuidanceGenerator.buildRequest config environment state with
        | error error => rfl
        | ok request =>
            have answered : stream request = environment.stream request :=
              (alike.generated request (congrArg Except.toOption made)).2
            simp only [answered]
      change (GuidanceGenerator.call config _ state).outcome = _
      rw [GuidanceGenerator.call, same]
      rfl

end PipelineNode

/-- The calls of a run of the graph, in order. -/
def PipelineGraph.calls [Runtime] [Rendering] (config : OrchestrationConfig)
    (environment : Environment) (embedder : Except PyError Unit) (initial : PipelineState) :
    List ProviderCall :=
  (visited config environment initial).flatMap fun (node, state) =>
    node.calls config environment embedder state

/-! ## An exhausted session -/

theorem SessionLLMContext.get_of_exhausted {context : SessionLLMContext}
    (exhausted : context.budget.stage = .exhausted) (providers : Providers)
    (feature : LLMFeature) :
    context.get providers feature = .error (LLMFactory.budgetExhaustedError
      s!"Cannot call {feature.value} — session budget exhausted") := by
  rw [get, if_pos exhausted]

section Exhausted

variable [Runtime] [Rendering] {config : OrchestrationConfig} {environment : Environment}
  {embedder : Except PyError Unit} {state : PipelineState}

/-- No node makes a request without a client. -/
theorem PipelineNode.request_of_exhausted
    (exhausted : state.llmCtx.budget.stage = .exhausted) (node : PipelineNode) :
    node.request config environment state = none := by
  have refused := SessionLLMContext.get_of_exhausted exhausted environment.providers
  unfold PipelineNode.request
  split
  · rfl
  · cases node with
    | retrieveContext | handleRevisit => rfl
    | classifyIntent =>
        simp only [IntentClassifier.request, refused]
        rfl
    | extractEntities =>
        simp only [EntityExtractor.request, refused]
        rfl
    | analyzeGaps =>
        simp only [GapAnalyzer.request, refused]
        cases GapAnalyzer.deterministicFallback state.llmCtx.currentPhase state.sessionState <;>
          rfl
    | generateGuidance =>
        simp only [GuidanceGenerator.buildRequest, refused]
        rfl

omit [Runtime] [Rendering] in
/-- Without a client the intent is the default one. -/
theorem IntentClassifier.intent_of_exhausted
    (exhausted : state.llmCtx.budget.stage = .exhausted) :
    (call config environment state).intent = some defaultIntent := by
  apply PipelineState.of_runWithTimeout fun after => after.intent = some defaultIntent
  · intro after returned
    rw [classify_eq, request] at returned
    simp only [SessionLLMContext.get_of_exhausted exhausted] at returned
    cases returned
  · intro message
    rfl

omit [Runtime] [Rendering] in
/-- An exhausted session is never taken back to a phase. -/
theorem PipelineGraph.fork_of_exhausted (exhausted : state.llmCtx.budget.stage = .exhausted) :
    (fork config environment state).1 = .default := by
  rw [fork]
  dsimp only
  rw [PipelineExecutor.routeAfterIntent, IntentClassifier.intent_of_exhausted exhausted]
  rfl

/-- A contribution always comes to the retrieval. -/
theorem PipelineGraph.retrieval_visited
    (contributes : (fork config environment state).1 = .default) :
    ∃ entered : PipelineState,
      (.retrieveContext, entered) ∈ visited config environment state := by
  refine ⟨EntityExtractor.call config environment (fork config environment state).2, ?_⟩
  rw [visited]
  dsimp only
  rw [contributes]
  simp [edges, visits, PipelineNode.call]

omit [Runtime] [Rendering] in
/-- What is embedded depends on the inputs only. -/
theorem PipelineNode.query_congr (node : PipelineNode) {entered : PipelineState}
    (same : SameInputs state entered) :
    node.query config embedder entered = node.query config embedder state := by
  unfold query RagRetrieval.request
  rw [same.sessionState, same.userMessage]

/-- A run on an exhausted session asks for an embedding or for nothing. -/
theorem PipelineGraph.calls_of_exhausted (exhausted : state.llmCtx.budget.stage = .exhausted) :
    calls config environment embedder state = [] ↔
      PipelineNode.query config embedder .retrieveContext state = none := by
  have contributes : (fork config environment state).1 = .default := fork_of_exhausted exhausted
  have inputs := sameInputs_of_visited contributes
  rw [calls, List.flatMap_eq_nil_iff]
  constructor
  · intro silent
    obtain ⟨entered, member⟩ := retrieval_visited contributes
    have none := ((PipelineNode.calls_eq_nil config environment embedder).mp
      (silent _ member)).2
    rwa [PipelineNode.query_congr _ (inputs _ member)] at none
  · rintro none ⟨node, entered⟩ member
    have same := inputs _ member
    apply (PipelineNode.calls_eq_nil config environment embedder).mpr
    constructor
    · apply PipelineNode.request_of_exhausted
      rw [same.llmCtx]
      exact exhausted
    · rw [PipelineNode.query_congr _ same]
      cases node with
      | retrieveContext => exact none
      | classifyIntent | extractEntities | analyzeGaps | generateGuidance | handleRevisit =>
          unfold PipelineNode.query
          split <;> rfl

omit [Runtime] [Rendering] in
theorem PipelineNode.query_eq_none :
    query config embedder .retrieveContext state = none ↔
      config.orchestration.pipeline.timeoutMs.ragRetrieval ≤ 0 ∨
        ((getField state.sessionState "documents_indexed" (.list [])).orElse
          (.list [])).truthy = false ∨
        ∃ error, embedder = .error error := by
  rw [query, expired, timeoutMs, Option.elim, RagRetrieval.request]
  cases embedder with
  | error error => simp [Except.toOption]
  | ok _ => simp [Except.toOption, or_iff_not_imp_left]

variable (config environment embedder) in
/-- A turn on an exhausted session calls no provider as long as nothing can be embedded:
the retrieval has no time, there are no documents, or the embedder has no client. -/
theorem PipelineGraph.calls_initialState_of_exhausted {context : SessionLLMContext}
    (exhausted : context.budget.stage = .exhausted) (session : Json) (message : Text) :
    calls config environment embedder (PipelineExecutor.initialState session message context) =
        [] ↔
      config.orchestration.pipeline.timeoutMs.ragRetrieval ≤ 0 ∨
        ((getField session "documents_indexed" (.list [])).orElse (.list [])).truthy = false ∨
        ∃ error, embedder = .error error :=
  (calls_of_exhausted exhausted).trans PipelineNode.query_eq_none

end Exhausted

/-! ### A session with one document and no budget left -/

section Sample

attribute [local instance] referenceRuntime referenceRendering

def sampleIndexed : Json :=
  .dict [(.ofString "documents_indexed", .list [.ofString "brief"])]

/-- The turn of a session that has spent its five dollars. -/
def sampleSpent : SessionLLMContext where
  sessionState := sampleIndexed
  budget := { sessionId := [], workspaceId := none, spentUsd := .finite 5,
              limitUsd := BudgetTracker.defaultLimitUsd }
  config := {}

theorem sampleSpent_exhausted : sampleSpent.budget.stage = .exhausted := by
  decide +kernel

/-- Without documents the session stays silent. -/
theorem calls_sampleSpent_of_undocumented :
    PipelineGraph.calls {} sampleEnvironment (.ok ())
      (PipelineExecutor.initialState (.dict []) (.ofString "Go on.") sampleSpent) = [] :=
  (PipelineGraph.calls_initialState_of_exhausted {} sampleEnvironment (.ok ())
    sampleSpent_exhausted (.dict []) (.ofString "Go on.")).mpr (.inr (.inl rfl))

/-- The message is embedded all the same. -/
theorem calls_sampleSpent_ne_nil :
    ¬∀ (config : OrchestrationConfig) (environment : Environment)
        (embedder : Except PyError Unit) (session : Json) (message : Text)
        (context : SessionLLMContext), context.budget.stage = .exhausted →
      PipelineGraph.calls config environment embedder
        (PipelineExecutor.initialState session message context) = [] := by
  intro all
  have silent := all {} sampleEnvironment (.ok ()) sampleIndexed (.ofString "Go on.") sampleSpent
    sampleSpent_exhausted
  have unasked := (PipelineGraph.calls_of_exhausted sampleSpent_exhausted).mp silent
  cases unasked

end Sample

end Chitragupt
