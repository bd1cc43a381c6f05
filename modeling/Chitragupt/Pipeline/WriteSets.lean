import Chitragupt.Pipeline.BudgetCap
import Chitragupt.Pipeline.Graph
import Chitragupt.Pipeline.TurnStream

/-!
# What the nodes write

Every node has its own fields of the state of a turn.  The inputs belong to no node, and
the context is shared by all of them; a node that asks it for a client fills a slot.
-/

namespace Chitragupt

open Python (PyError Json)

/-- The fields of the state that are not inputs. -/
inductive OutputField where
  | intent
  | extractedEntities
  | retrievedChunks
  | gapAnalysis
  | guidanceTokens
  | acUpdates
  | nodeErrors
  | pipelineAborted
  deriving DecidableEq, Repr

/-- The fields that a node is documented to write. -/
def PipelineNode.outputs : PipelineNode → List OutputField
  | .classifyIntent => [.intent, .nodeErrors]
  | .extractEntities => [.extractedEntities, .acUpdates, .nodeErrors]
  | .retrieveContext => [.retrievedChunks, .nodeErrors]
  | .analyzeGaps => [.gapAnalysis, .nodeErrors]
  | .generateGuidance => [.guidanceTokens, .pipelineAborted, .nodeErrors]
  | .handleRevisit => [.gapAnalysis, .nodeErrors]

/-- The states differ at most in the given fields, which are no inputs. -/
structure Frame (written : List OutputField) (before after : PipelineState) : Prop where
  sessionState : after.sessionState = before.sessionState
  userMessage : after.userMessage = before.userMessage
  llmCtx : after.llmCtx = before.llmCtx
  intent : .intent ∈ written ∨ after.intent = before.intent
  extractedEntities :
    .extractedEntities ∈ written ∨ after.extractedEntities = before.extractedEntities
  retrievedChunks : .retrievedChunks ∈ written ∨ after.retrievedChunks = before.retrievedChunks
  gapAnalysis : .gapAnalysis ∈ written ∨ after.gapAnalysis = before.gapAnalysis
  guidanceTokens : .guidanceTokens ∈ written ∨ after.guidanceTokens = before.guidanceTokens
  acUpdates : .acUpdates ∈ written ∨ after.acUpdates = before.acUpdates
  nodeErrors : .nodeErrors ∈ written ∨ after.nodeErrors = before.nodeErrors
  pipelineAborted : .pipelineAborted ∈ written ∨ after.pipelineAborted = before.pipelineAborted

namespace PipelineNode

variable [Runtime] [Rendering] (config : OrchestrationConfig) (environment : Environment)

/-- Every node but the revisit handler keeps to its own fields. -/
theorem frame_of_call {node : PipelineNode} (other : node ≠ .handleRevisit)
    {state after : PipelineState}
    (returned : node.call config environment state = .returns after) :
    Frame node.outputs state after := by
  cases node with
  | handleRevisit => exact absurd rfl other
  | classifyIntent =>
      obtain ⟨_, _, same⟩ := IntentClassifier.call_eq config environment state
      rw [call, same] at returned
      cases returned
      constructor <;> simp [outputs]
  | extractEntities =>
      obtain ⟨_, _, _, same⟩ := EntityExtractor.call_eq config environment state
      rw [call, same] at returned
      cases returned
      constructor <;> simp [outputs]
  | retrieveContext =>
      obtain ⟨_, _, same⟩ := RagRetrieval.call_eq config environment state
      rw [call, same] at returned
      cases returned
      constructor <;> simp [outputs]
  | analyzeGaps =>
      rw [call, Outcome.ofExcept_eq_returns] at returned
      rcases GapAnalyzer.eq_of_call config environment returned with ⟨_, _, _, rfl⟩
      constructor <;> simp [outputs]
  | generateGuidance =>
      rcases GuidanceGenerator.eq_of_call config environment returned with
        ⟨_, _, rfl⟩ | ⟨_, _, rfl⟩
      · constructor <;> simp [outputs]
      · constructor <;> simp [outputs, GuidanceGenerator.abort, PipelineState.failed]

/-- The context object after a node has run on it: one that is not cancelled before it
starts asks for the client of its feature. -/
def contextAfter (node : PipelineNode) (state : PipelineState) (slotted : SlottedContext) :
    SlottedContext :=
  if node.expired config then slotted
  else
    match node.feature state with
    | none => slotted
    | some feature => (slotted.get environment.providers feature).2

/-- The node returns no state that differs outside its own fields, and changes the context
in its slots only. -/
def RespectsWriteSet (node : PipelineNode) (state : PipelineState) : Prop :=
  (∀ after, node.call config environment state = .returns after →
    Frame node.outputs state after) ∧
  ∀ slotted, slotted.context = state.llmCtx →
    (node.contextAfter config environment state slotted).context = state.llmCtx

/-- A state that already has all that the revisit handler writes besides the gap. -/
structure MovedTo (target : String) (state : PipelineState) : Prop where
  sessionState : RevisitHandler.moveTo target state.sessionState = state.sessionState
  intent : state.intent = some s!"REVISIT:{target}"
  extractedEntities : state.extractedEntities = []
  acUpdates : state.acUpdates = []

omit [Runtime] [Rendering] in
theorem context_contextAfter (node : PipelineNode) (state : PipelineState)
    (slotted : SlottedContext) :
    (node.contextAfter config environment state slotted).context = slotted.context := by
  unfold contextAfter
  split
  · rfl
  · split
    · rfl
    · exact slotted.context_get _ _

/-- The node keeps to its own fields, or it is the revisit handler and moves the session to
the phase that the message names.  Neither the message nor the context is changed. -/
def KeepsToWriteSet (node : PipelineNode) (state : PipelineState) : Prop :=
  (∀ after, node.call config environment state = .returns after →
    Frame node.outputs state after ∨
      node = .handleRevisit ∧ ∃ target gap, RevisitHandler.Resolves state target ∧
        after =
          { state with
            sessionState := RevisitHandler.moveTo target state.sessionState
            intent := some s!"REVISIT:{target}"
            gapAnalysis := some gap
            extractedEntities := []
            acUpdates := [] }) ∧
  ∀ slotted, slotted.context = state.llmCtx →
    (node.contextAfter config environment state slotted).context = state.llmCtx

variable {config environment} in
theorem frame_or_moved {node : PipelineNode} {state after : PipelineState}
    (returned : node.call config environment state = .returns after) :
    Frame node.outputs state after ∨
      node = .handleRevisit ∧ ∃ target gap, RevisitHandler.Resolves state target ∧
        after =
          { state with
            sessionState := RevisitHandler.moveTo target state.sessionState
            intent := some s!"REVISIT:{target}"
            gapAnalysis := some gap
            extractedEntities := []
            acUpdates := [] } := by
  by_cases other : node ≠ .handleRevisit
  · exact .inl (frame_of_call config environment other returned)
  · rw [not_not] at other
    subst other
    cases Outcome.returns.inj returned
    rcases RevisitHandler.call_cases state with
      ⟨target, _, resolves, moved⟩ | ⟨_, _, same, _⟩
    · exact .inr ⟨rfl, target, _, resolves, moved⟩
    · left
      rw [same]
      constructor <;> simp [outputs]

theorem keepsToWriteSet (node : PipelineNode) (state : PipelineState) :
    KeepsToWriteSet config environment node state := by
  constructor
  · intro after returned
    exact frame_or_moved returned
  · intro slotted same
    exact (context_contextAfter config environment node state slotted).trans same

/-- The nodes respect their write sets, the revisit handler aside: it keeps to its own
only where it finds no target phase, or nothing is left to be written. -/
theorem respectsWriteSet_iff (node : PipelineNode) (state : PipelineState) :
    RespectsWriteSet config environment node state ↔
      (node = .handleRevisit → ∀ target, RevisitHandler.Resolves state target →
        MovedTo target state) := by
  have context : ∀ slotted : SlottedContext, slotted.context = state.llmCtx →
      (node.contextAfter config environment state slotted).context = state.llmCtx :=
    fun slotted same => (context_contextAfter config environment node state slotted).trans same
  rw [RespectsWriteSet, and_iff_left context]
  constructor
  · rintro frame rfl target resolves
    obtain ⟨unmet, moved⟩ := RevisitHandler.call_of_resolves resolves
    have kept := frame _ (congrArg Outcome.returns moved)
    have untouched : ∀ {field : OutputField} {kept : Prop}, field ∉ outputs .handleRevisit →
        field ∈ outputs .handleRevisit ∨ kept → kept :=
      fun absent either => either.resolve_left absent
    exact ⟨kept.sessionState, (untouched (by decide) kept.intent).symm,
      (untouched (by decide) kept.extractedEntities).symm,
      (untouched (by decide) kept.acUpdates).symm⟩
  · intro settled after returned
    rcases frame_or_moved returned with frame | ⟨rfl, target, gap, resolves, rfl⟩
    · exact frame
    · have already := settled rfl target resolves
      constructor <;>
        simp [outputs, already.sessionState, already.intent, already.extractedEntities,
          already.acUpdates]

end PipelineNode

/-- The inputs of the pipeline are the same in both states. -/
structure SameInputs (before after : PipelineState) : Prop where
  sessionState : after.sessionState = before.sessionState
  userMessage : after.userMessage = before.userMessage
  llmCtx : after.llmCtx = before.llmCtx

theorem SameInputs.trans {first second third : PipelineState}
    (earlier : SameInputs first second) (later : SameInputs second third) :
    SameInputs first third :=
  ⟨later.sessionState.trans earlier.sessionState, later.userMessage.trans earlier.userMessage,
    later.llmCtx.trans earlier.llmCtx⟩

theorem Frame.sameInputs {written : List OutputField} {before after : PipelineState}
    (frame : Frame written before after) : SameInputs before after :=
  ⟨frame.sessionState, frame.userMessage, frame.llmCtx⟩

namespace PipelineGraph

variable [Runtime] [Rendering] {config : OrchestrationConfig} {environment : Environment}

/-- The classifier keeps the inputs of the run. -/
theorem sameInputs_fork (initial : PipelineState) :
    SameInputs initial (fork config environment initial).2 := by
  have upstream : PipelineNode.classifyIntent ≠ .handleRevisit := nofun
  have frame : Frame (PipelineNode.outputs .classifyIntent) initial
      (fork config environment initial).2 :=
    PipelineNode.frame_of_call config environment upstream rfl
  exact frame.sameInputs

/-- Every node of a contribution is entered with the inputs of the run. -/
theorem sameInputs_of_visited {initial : PipelineState}
    (contributes : (fork config environment initial).1 = .default) :
    ∀ visit ∈ visited config environment initial, SameInputs initial visit.2 := by
  have kept : ∀ node ∈ edges .default, ∀ state after, SameInputs initial state →
      node.call config environment state = .returns after → SameInputs initial after := by
    intro node member state after same returned
    have other : node ≠ .handleRevisit := by
      rintro rfl
      simp [edges] at member
    have frame := PipelineNode.frame_of_call config environment other returned
    exact same.trans frame.sameInputs
  rw [visited]
  dsimp only
  rw [contributes, List.forall_mem_cons]
  exact ⟨⟨rfl, rfl, rfl⟩, forall_visits kept (sameInputs_fork initial)⟩

end PipelineGraph

/-! ### A message about the problem -/

section Sample

attribute [local instance] referenceRuntime referenceRendering

/-- A revisit of the problem in a session without a document of its own. -/
def sampleRevisiting : PipelineState :=
  PipelineExecutor.initialState (.dict []) (.ofString "Let's go back to the problem.")
    (.forTurn {} .absent (.dict []))

/-- The handler writes the phase into the session, an input of the pipeline. -/
theorem not_respectsWriteSet_of_sampleRevisiting :
    ¬∀ config environment node state,
      PipelineNode.RespectsWriteSet config environment node state := by
  intro all
  have frame := (all {} sampleEnvironment .handleRevisit sampleRevisiting).1 _ rfl
  have resolves : RevisitHandler.Resolves sampleRevisiting "ProblemIntake" :=
    ⟨by decide, _, rfl⟩
  obtain ⟨unmet, moved⟩ := RevisitHandler.call_of_resolves resolves
  have same := frame.sessionState
  rw [moved] at same
  cases same

end Sample

end Chitragupt
