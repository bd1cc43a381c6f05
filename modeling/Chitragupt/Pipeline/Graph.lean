import Chitragupt.Pipeline.Executor

/-!
# The graph of the pipeline

The nodes by name, the edges between them, and the states in which the nodes of a run
are entered.  The executor's view of the compiled graph is the walk along these edges.
-/

namespace Chitragupt

open Python (PyError Json)

inductive PipelineNode where
  | classifyIntent
  | extractEntities
  | retrieveContext
  | analyzeGaps
  | generateGuidance
  | handleRevisit
  deriving DecidableEq, Repr

namespace PipelineNode

/-- The name under which a node records its errors. -/
def className : PipelineNode → String
  | .classifyIntent => "IntentClassifierNode"
  | .extractEntities => "EntityExtractorNode"
  | .retrieveContext => "RAGRetrievalNode"
  | .analyzeGaps => "GapAnalyzerNode"
  | .generateGuidance => "GuidanceGeneratorNode"
  | .handleRevisit => "RevisitHandlerNode"

theorem className_injective : Function.Injective className := by
  intro first second same
  cases first <;> cases second <;> first | rfl | simp [className] at same

/-- The feature whose client a node asks for. -/
def feature (state : PipelineState) : PipelineNode → Option LLMFeature
  | .classifyIntent => some .intentClassification
  | .extractEntities => some .dataTransformation
  | .analyzeGaps => some .ragSynthesis
  | .generateGuidance =>
      if state.llmCtx.currentPhase.isStr GuidanceGenerator.signOffPhase then
        some .brdGeneration
      else
        some .requirementRefinement
  | .retrieveContext | .handleRevisit => none

/-- The timeout that a node is run with, in milliseconds; the last node has none. -/
def timeoutMs (config : OrchestrationConfig) : PipelineNode → Option Int
  | .classifyIntent => some config.orchestration.pipeline.timeoutMs.intentClassifier
  | .extractEntities => some config.orchestration.pipeline.timeoutMs.entityExtractor
  | .retrieveContext => some config.orchestration.pipeline.timeoutMs.ragRetrieval
  | .analyzeGaps => some config.orchestration.pipeline.timeoutMs.gapAnalyzer
  | .generateGuidance => none
  | .handleRevisit => some RevisitHandler.timeoutMs

/-- The node is cancelled before it starts. -/
def expired (config : OrchestrationConfig) (node : PipelineNode) : Bool :=
  (node.timeoutMs config).elim false fun timeoutMs => timeoutMs ≤ 0

variable [Runtime] [Rendering] (config : OrchestrationConfig) (environment : Environment)

/-- A node applied to a state. -/
def call : PipelineNode → PipelineState → Outcome PipelineState
  | .classifyIntent, state => .returns (IntentClassifier.call config environment state)
  | .extractEntities, state => .returns (EntityExtractor.call config environment state)
  | .retrieveContext, state => .returns (RagRetrieval.call config environment state)
  | .analyzeGaps, state => .ofExcept (GapAnalyzer.call config environment state)
  | .generateGuidance, state => (GuidanceGenerator.call config environment state).outcome
  | .handleRevisit, state => .returns (RevisitHandler.call state)

end PipelineNode

namespace PipelineGraph

open PipelineExecutor (Route routeAfterIntent)

/-- The nodes behind the intent classifier, in order. -/
def edges : Route → List PipelineNode
  | .revisit => [.handleRevisit, .generateGuidance]
  | .default => [.extractEntities, .retrieveContext, .analyzeGaps, .generateGuidance]

variable [Runtime] [Rendering] (config : OrchestrationConfig) (environment : Environment)

/-- Run nodes one after the other. -/
def walk : List PipelineNode → PipelineState → Outcome PipelineState
  | [], state => .returns state
  | node :: nodes, state => do
      let after ← node.call config environment state
      walk nodes after

/-- The nodes that are entered on the way, with the states they are given. -/
def visits : List PipelineNode → PipelineState → List (PipelineNode × PipelineState)
  | [], _ => []
  | node :: nodes, state =>
      (node, state) ::
        match node.call config environment state with
        | .returns after => visits nodes after
        | _ => []

/-- The route of a run and the state at its fork. -/
def fork (initial : PipelineState) : Route × PipelineState :=
  let classified := IntentClassifier.call config environment initial
  (routeAfterIntent classified, classified)

/-- The compiled graph, whatever time it takes. -/
def ainvoke (initial : PipelineState) : Outcome PipelineState :=
  let (route, classified) := fork config environment initial
  walk config environment (edges route) classified

/-- The nodes that a run enters. -/
def visited (initial : PipelineState) : List (PipelineNode × PipelineState) :=
  let (route, classified) := fork config environment initial
  (.classifyIntent, initial) :: visits config environment (edges route) classified

/-- The nodes before the guidance prepare its state, or one of them raises. -/
theorem ainvoke_eq (initial : PipelineState) :
    ainvoke config environment initial =
      match PipelineExecutor.prepare config environment initial with
      | .error error => .raises error
      | .ok prepared => (GuidanceGenerator.call config environment prepared).outcome := by
  rw [ainvoke, fork, PipelineExecutor.prepare]
  dsimp only
  cases routeAfterIntent (IntentClassifier.call config environment initial) with
  | revisit =>
      simp only [edges, walk, PipelineNode.call, bind, Outcome.bind]
      cases (GuidanceGenerator.call config environment (RevisitHandler.call
        (IntentClassifier.call config environment initial))).outcome <;> rfl
  | default =>
      simp only [edges, walk, PipelineNode.call, PipelineExecutor.contribute, bind, Outcome.bind]
      cases GapAnalyzer.call config environment (RagRetrieval.call config environment
          (EntityExtractor.call config environment
            (IntentClassifier.call config environment initial))) with
      | error error => rfl
      | ok analyzed =>
          simp only [Outcome.ofExcept]
          cases (GuidanceGenerator.call config environment analyzed).outcome <;> rfl

/-- The executor runs the compiled graph, unless its nodes outlast the ceiling. -/
theorem outcome_invoke (initial : PipelineState) :
    (PipelineExecutor.invoke config environment initial).outcome =
      if environment.slowNodes then .timesOut else ainvoke config environment initial := by
  rw [PipelineExecutor.invoke]
  split
  · rfl
  · rw [ainvoke_eq]
    cases PipelineExecutor.prepare config environment initial <;> rfl

theorem visits_cons_of_returns {node : PipelineNode} {nodes : List PipelineNode}
    {state after : PipelineState}
    (returned : node.call config environment state = .returns after) :
    visits config environment (node :: nodes) state =
      (node, state) :: visits config environment nodes after := by
  rw [visits, returned]

@[simp] theorem visits_singleton (node : PipelineNode) (state : PipelineState) :
    visits config environment [node] state = [(node, state)] := by
  rw [visits]
  cases node.call config environment state <;> rfl

/-- The guidance is entered with the prepared state. -/
theorem guidance_visited_iff {initial entered : PipelineState} :
    (.generateGuidance, entered) ∈ visited config environment initial ↔
      PipelineExecutor.prepare config environment initial = .ok entered := by
  rw [visited, fork, PipelineExecutor.prepare]
  dsimp only
  cases routeAfterIntent (IntentClassifier.call config environment initial) with
  | revisit =>
      rw [edges, visits_cons_of_returns config environment rfl]
      simp [eq_comm]
  | default =>
      rw [edges, visits_cons_of_returns config environment rfl,
        visits_cons_of_returns config environment rfl, visits, PipelineNode.call,
        PipelineExecutor.contribute]
      dsimp only
      cases GapAnalyzer.call config environment (RagRetrieval.call config environment
          (EntityExtractor.call config environment
            (IntentClassifier.call config environment initial))) with
      | error error => simp [Outcome.ofExcept]
      | ok analyzed => simp [Outcome.ofExcept, eq_comm]

variable {config environment}

/-- Only the given nodes are entered. -/
theorem fst_mem_of_visits {nodes : List PipelineNode} {state : PipelineState} :
    ∀ visit ∈ visits config environment nodes state, visit.1 ∈ nodes := by
  induction nodes generalizing state with
  | nil =>
      intro visit member
      cases member
  | cons node nodes ih =>
      intro visit member
      rw [visits] at member
      rcases List.mem_cons.mp member with rfl | later
      · exact List.mem_cons_self
      · split at later
        · exact List.mem_cons_of_mem _ (ih visit later)
        · cases later

/-- The revisit handler is entered behind the classifier, and only on its own route. -/
theorem handleRevisit_visited_iff {initial entered : PipelineState} :
    (.handleRevisit, entered) ∈ visited config environment initial ↔
      (fork config environment initial).1 = .revisit ∧
        (fork config environment initial).2 = entered := by
  rw [visited]
  dsimp only
  cases route : (fork config environment initial).1 with
  | default =>
      have absent : (.handleRevisit, entered) ∉ visits config environment (edges .default)
          (fork config environment initial).2 := by
        intro member
        have within := fst_mem_of_visits _ member
        simp [edges] at within
      simp [absent]
  | revisit =>
      rw [edges, visits_cons_of_returns config environment rfl]
      simp [eq_comm]

/-- What holds on the way in and survives every node holds wherever a node is entered. -/
theorem forall_visits {property : PipelineState → Prop} {nodes : List PipelineNode}
    (kept : ∀ node ∈ nodes, ∀ state after, property state →
      node.call config environment state = .returns after → property after)
    {state : PipelineState} (holds : property state) :
    ∀ visit ∈ visits config environment nodes state, property visit.2 := by
  induction nodes generalizing state with
  | nil =>
      intro visit member
      cases member
  | cons node nodes ih =>
      intro visit member
      rw [visits] at member
      rcases List.mem_cons.mp member with rfl | later
      · exact holds
      · cases returned : node.call config environment state with
        | returns after =>
            rw [returned] at later
            exact ih (fun other within => kept other (List.mem_cons_of_mem _ within))
              (kept node List.mem_cons_self state after holds returned) visit later
        | raises error =>
            rw [returned] at later
            cases later
        | timesOut =>
            rw [returned] at later
            cases later

end PipelineGraph

end Chitragupt
