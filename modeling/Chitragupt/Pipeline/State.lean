import Chitragupt.Pipeline.Context
import Chitragupt.StateMachine.Session

/-!
# The state of a turn and its nodes

The state threaded through the nodes of the pipeline, the environment they run in,
and the wrapper that turns the exceptions and timeouts of a node into entries of
`nodeErrors`.
-/

namespace Chitragupt

open Python (PyError Json)

/-! ## Entities -/

/-- An entity extracted from a turn, with the values that the model's reply gave. -/
structure Entity where
  entityType : Json
  value : Json
  confidence : ExactFloat
  source : Json
  phase : Json
  sourceChunkIds : List Text

/-- A document chunk returned by retrieval. -/
structure ChunkRef where
  chunkId : Uuid
  content : Text
  score : ExactFloat
  sectionTitle : Option Text
  pageNumber : Option Int

/-- The highest-priority unmet criterion. -/
structure GapResult where
  criterionId : Json
  description : Json
  suggestedQuestion : Json
  priority : Int
  isTerminal : Bool
  unmetCount : Int

/-- The number of entities of a type. -/
def countType (entityType : String) (entities : List Entity) : Nat :=
  (entities.filter fun entity => entity.entityType.isStr (.ofString entityType)).length

structure PipelineState where
  sessionState : Json
  userMessage : Text
  llmCtx : SessionLLMContext
  intent : Option String
  extractedEntities : List Entity
  retrievedChunks : List ChunkRef
  gapAnalysis : Option GapResult
  guidanceTokens : List Text
  acUpdates : List AcUpdate
  nodeErrors : List (String × String)
  pipelineAborted : Bool

/-! ## The environment -/

/-- How an awaited operation ends.  Exceptions here are those that `except Exception`
catches. -/
inductive Outcome (α : Type) where
  | returns (value : α)
  | raises (error : PyError)
  | timesOut

namespace Outcome

/-- Sequencing of awaited operations. -/
protected def bind {α β : Type} (outcome : Outcome α) (next : α → Outcome β) : Outcome β :=
  match outcome with
  | .returns value => next value
  | .raises error => .raises error
  | .timesOut => .timesOut

/-- A computation without an await. -/
def ofExcept {α : Type} : Except PyError α → Outcome α
  | .ok value => .returns value
  | .error error => .raises error

instance : Monad Outcome where
  pure := .returns
  bind := Outcome.bind

instance : MonadLift (Except PyError) Outcome := ⟨ofExcept⟩

/-- Sequenced operations return when both of them do. -/
@[simp] theorem bind_eq_returns {α β : Type} {outcome : Outcome α} {next : α → Outcome β}
    {result : β} :
    outcome >>= next = .returns result ↔
      ∃ value, outcome = .returns value ∧ next value = .returns result := by
  cases outcome with
  | returns value => simp [bind, Outcome.bind]
  | raises error => simp [bind, Outcome.bind]
  | timesOut => simp [bind, Outcome.bind]

@[simp] theorem pure_eq_returns {α : Type} {value result : α} :
    (pure value : Outcome α) = .returns result ↔ value = result := by
  simp [pure]

@[simp] theorem ofExcept_bind {α β : Type} (computed : Except PyError α)
    (next : α → Except PyError β) :
    ofExcept (computed >>= next) = ofExcept computed >>= fun value => ofExcept (next value) := by
  cases computed <;> rfl

theorem bind_assoc {α β γ : Type} (outcome : Outcome α) (next : α → Outcome β)
    (last : β → Outcome γ) :
    outcome >>= next >>= last = outcome >>= fun value => next value >>= last := by
  cases outcome <;> rfl

theorem ofExcept_eq_returns {α : Type} {computed : Except PyError α} {value : α} :
    ofExcept computed = .returns value ↔ computed = .ok value := by
  cases computed <;> simp [ofExcept]

end Outcome

/-- A call to a text-generation model. -/
structure LlmRequest where
  client : LLMClient
  model : String
  system : Text
  content : Text
  maxTokens : Nat

/-- How a streamed reply ends; a stalled stream outlasts every ceiling. -/
inductive StreamEnding where
  | finished
  | raised (error : PyError)
  | stalled

structure TokenStream where
  tokens : List Text
  ending : StreamEnding

/-- What retrieval hands to the embedder and the database. -/
structure RetrievalRequest where
  query : Text
  workspaceId : Json
  projectId : Json
  denseWeight : ExactFloat
  sparseWeight : ExactFloat
  topK : Int

/-- Everything outside the pipeline during one turn: the providers, the prompt files,
the text of the first content block of each reply, the streamed reply, the documents
found, and whether the nodes before the guidance use up the ceiling of the stream.
The decoder has a bounded number of recursion levels. -/
structure Environment where
  providers : Providers
  prompt : String → Except PyError Text
  reply : LlmRequest → Outcome (Option Text)
  stream : LlmRequest → TokenStream
  search : RetrievalRequest → Outcome (List ChunkRef)
  slowNodes : Bool
  recursionLimit : Nat

/-! ## Nodes -/

namespace PipelineState

/-- Record an error of a node over its default state. -/
def failed (state default : PipelineState) (className message : String) : PipelineState :=
  { default with nodeErrors := Python.assign className message state.nodeErrors }

/-- Run a node within its timeout; a timeout that is not positive expires at once. -/
def runWithTimeout (className : String) (timeoutMs : Int) (outcome : Outcome PipelineState)
    (state default : PipelineState) : PipelineState :=
  let timedOut := state.failed default className s!"timeout after {timeoutMs}ms"
  if timeoutMs ≤ 0 then timedOut
  else
    match outcome with
    | .returns after => after
    | .timesOut => timedOut
    | .raises error =>
        if error.cls = .timeoutError then timedOut
        else state.failed default className error.message

section RunWithTimeout

variable {className : String} {timeoutMs : Int} {outcome : Outcome PipelineState}
  {state after default : PipelineState}

/-- A node that returns in time is left alone. -/
theorem runWithTimeout_of_returns (positive : ¬timeoutMs ≤ 0)
    (returned : outcome = .returns after) :
    state.runWithTimeout className timeoutMs outcome default = after := by
  unfold runWithTimeout
  dsimp only
  rw [if_neg positive, returned]

/-- The failure of a node is recorded over its default state. -/
theorem runWithTimeout_of_fails (fails : timeoutMs ≤ 0 ∨ ∀ after, outcome ≠ .returns after) :
    ∃ message, state.runWithTimeout className timeoutMs outcome default =
      state.failed default className message := by
  unfold runWithTimeout
  dsimp only
  split
  next => exact ⟨_, rfl⟩
  next positive =>
    have raised := fails.resolve_left positive
    cases outcome with
    | returns after => exact absurd rfl (raised after)
    | timesOut => exact ⟨_, rfl⟩
    | raises error =>
        dsimp only
        split
        · exact ⟨_, rfl⟩
        · exact ⟨_, rfl⟩

end RunWithTimeout

/-- What holds of the returned state and of the default with any error holds of the
result of a node. -/
theorem of_runWithTimeout (property : PipelineState → Prop) {className : String}
    {timeoutMs : Int} {outcome : Outcome PipelineState} {state default : PipelineState}
    (returned : ∀ after, outcome = .returns after → property after)
    (failed : ∀ message, property (state.failed default className message)) :
    property (state.runWithTimeout className timeoutMs outcome default) := by
  unfold runWithTimeout
  dsimp only
  split
  · exact failed _
  · cases outcome with
    | returns after => exact returned after rfl
    | timesOut => exact failed _
    | raises error =>
        dsimp only
        split
        · exact failed _
        · exact failed _

end PipelineState

end Chitragupt
