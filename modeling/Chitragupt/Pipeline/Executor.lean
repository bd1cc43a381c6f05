import Chitragupt.Pipeline.EntityExtractor
import Chitragupt.Pipeline.GuidanceGenerator
import Chitragupt.Pipeline.IntentClassifier
import Chitragupt.Pipeline.RagRetrieval
import Chitragupt.Pipeline.RevisitHandler

/-!
# The pipeline executor

One turn from the session document to its result.  The graph runs beside the reader of
the token queue; the reader gives up when nothing arrives for the length of the ceiling
and cancels the graph.
-/

namespace Chitragupt

open Python (PyError Json)

/-- The structured outputs of a turn. -/
structure TurnResult where
  intent : String
  entities : List Entity := []
  acUpdates : List AcUpdate := []
  gapAnalysis : Option GapResult := none
  guidanceTokens : List Text := []
  nodeErrors : List (String × String) := []
  aborted : Bool := false
  costUsd : ExactFloat := 0

namespace TurnResult

/-- The last gap is terminal and nothing was aborted. -/
def transitionReady (result : TurnResult) : Bool :=
  result.gapAnalysis.elim false fun gap => gap.isTerminal && !result.aborted

/-- The intent of the final state, or the default for a missing or empty one. -/
def intentOf (final : PipelineState) : String :=
  match final.intent with
  | none | some "" => "Clarification"
  | some intent => intent

/-- The result of a graph that has ended, with the spend of the context. -/
def ofState (context : SessionLLMContext) (final : PipelineState) : TurnResult where
  intent := intentOf final
  entities := final.extractedEntities
  acUpdates := final.acUpdates
  gapAnalysis := final.gapAnalysis
  guidanceTokens := final.guidanceTokens
  nodeErrors := final.nodeErrors
  aborted := final.pipelineAborted
  costUsd := context.budget.spentUsd

/-- The result of a graph that has raised. -/
def ofError (error : PyError) : TurnResult where
  intent := "Clarification"
  nodeErrors := [("pipeline", error.message)]
  aborted := true

end TurnResult

/-- How a run of the executor ends.  An aborted run raises `PipelineAbortedError`; the
result is the last one in either of the first two cases. -/
inductive RunEnding where
  | finished (result : TurnResult)
  | aborted (result : TurnResult)
  | raised (error : PyError)

/-- The last result, when the run has one. -/
def RunEnding.result? : RunEnding → Option TurnResult
  | .finished result => some result
  | .aborted result => some result
  | .raised _ => none

/-- The tokens that a run yields, and its end. -/
structure PipelineRun where
  tokens : List Text
  ending : RunEnding

namespace PipelineExecutor

inductive Route where
  | revisit
  | default
  deriving DecidableEq, Repr

def routeAfterIntent (state : PipelineState) : Route :=
  if state.intent.getD "" = "REVISIT" then .revisit else .default

def initialState (session : Json) (message : Text) (context : SessionLLMContext) :
    PipelineState where
  sessionState := session
  userMessage := message
  llmCtx := context
  intent := none
  extractedEntities := []
  retrievedChunks := []
  gapAnalysis := none
  guidanceTokens := []
  acUpdates := []
  nodeErrors := []
  pipelineAborted := false

def cancelled : PyError := ⟨.cancelledError, ""⟩

variable [Runtime] [Rendering] (config : OrchestrationConfig) (environment : Environment)

/-- The branch of a new contribution: extract, retrieve, analyze. -/
def contribute (state : PipelineState) : Except PyError PipelineState :=
  let state := EntityExtractor.call config environment state
  let state := RagRetrieval.call config environment state
  GapAnalyzer.call config environment state

/-- The nodes before the guidance. -/
def prepare (state : PipelineState) : Except PyError PipelineState :=
  let state := IntentClassifier.call config environment state
  match routeAfterIntent state with
  | .revisit => .ok (RevisitHandler.call state)
  | .default => contribute config environment state

/-- The compiled graph. -/
def invoke (state : PipelineState) : Generation PipelineState :=
  if environment.slowNodes then { tokens := [], outcome := .timesOut }
  else
    match prepare config environment state with
    | .error error => { tokens := [], outcome := .raises error }
    | .ok state => GuidanceGenerator.call config environment state

/-- The graph with its exceptions caught.  The queue is closed in any case that ends. -/
def runGraph (initial : PipelineState) : Generation TurnResult :=
  let generation := invoke config environment initial
  { tokens := generation.tokens
    outcome :=
      match generation.outcome with
      | .returns final => .returns (.ofState initial.llmCtx final)
      | .raises error => .returns (.ofError error)
      | .timesOut => .timesOut }

/-- No exception leaves the task. -/
theorem runGraph_ne_raises (initial : PipelineState) (error : PyError) :
    (runGraph config environment initial).outcome ≠ .raises error := by
  rw [runGraph]
  cases (invoke config environment initial).outcome <;> exact nofun

/-- One turn.  The bound of the queue holds the graph back until tokens are read and
changes nothing else; but it has to be looked up first. -/
def run (maxsize : Except PyError Int) (session : Json) (message : Text)
    (context : SessionLLMContext) : PipelineRun :=
  match maxsize with
  | .error error => { tokens := [], ending := .raised error }
  | .ok _ =>
      let generation := runGraph config environment (initialState session message context)
      { tokens := generation.tokens
        ending :=
          match generation.outcome with
          | .returns result => if result.aborted then .aborted result else .finished result
          | .raises error => .raised error
          -- The reader cancels the graph; awaiting it afterwards raises.
          | .timesOut => .raised cancelled }

end PipelineExecutor

end Chitragupt
