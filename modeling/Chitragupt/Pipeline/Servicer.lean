import Chitragupt.Pipeline.Executor
import Chitragupt.StateMachine.Wire

/-!
# The orchestration servicer

The streaming RPC of the orchestration service: token events, then the message that
completes the turn.  Messages take valid Unicode strings only, whatever the model's
reply has put into the result.
-/

namespace Chitragupt

open Python (PyError Json)

/-! ## Messages -/

structure PipelineRequest where
  sessionState : SessionStateProto
  userMessage : String

structure TurnComplete where
  intent : String
  entities : List EntityProto
  acUpdates : List AcUpdateProto
  transitionReady : Bool
  gapCriterionId : String
  suggestedQuestion : String
  costUsd : ExactFloat
  nodeErrors : List (String × String)
  aborted : Bool

inductive PipelineEvent where
  | token (text : String)
  | complete (turn : TurnComplete)

/-- The events that an RPC sends, and the exception that ends it, if any. -/
structure EventStream where
  events : List PipelineEvent
  error : Option PyError

/-! ## Mapping helpers -/

/-- Assign a text to a string field. -/
def protoText (text : Text) : Except PyError String :=
  match text.toString? with
  | some string => .ok string
  | none => .error ⟨.other "UnicodeEncodeError", "surrogates not allowed"⟩

/-- Assign a value to a string field; `None` leaves the field unset. -/
def protoString (value : Json) : Except PyError String :=
  match value with
  | .null => .ok ""
  | .str text => protoText text
  | other => .error (.typeError s!"bad argument type for built-in operation: '{other.typeName}'")

/-- The session of a request: the document, or the fields of the message when there is
no document or it is not JSON. -/
def protoSessionToDict (proto : SessionStateProto) : Except PyError Json :=
  let fields : Json := objectJson
    [ ("session_id", .ofString proto.sessionId),
      ("workspace_id", .ofString proto.workspaceId),
      ("project_id", .ofString proto.projectId),
      ("current_phase", .ofString proto.currentPhase),
      ("turn_count", .int proto.turnCount.toInt),
      ("total_llm_cost_usd", .float proto.totalCostUsd),
      ("ac_met", listJson .ofString proto.acMet),
      ("ac_waived", listJson .ofString proto.acWaived),
      ("documents_indexed", listJson .ofString proto.documentsIndexed) ]
  match proto.stateJson with
  | none => .ok fields
  | some (.ok document) => .ok document
  | some (.error error) => if error.cls = .jsonDecodeError then .ok fields else .error error

section Messages

variable [FloatRounding]

/-- The confidence goes into a 32-bit field, like the cost of a turn. -/
def entityToProto (entity : Entity) : Except PyError EntityProto := do
  return {
    entityType := ← protoString entity.entityType
    value := ← protoString entity.value
    confidence := FloatRounding.single entity.confidence
    source := ← protoString entity.source
    sourceChunkIds := ← entity.sourceChunkIds.mapM protoText }

def acUpdateToProto (update : AcUpdate) : AcUpdateProto where
  criterionId := update.criterionId
  met := update.met
  evidence := update.evidence

/-- The message of a result.  Readiness is read off the gap alone. -/
def buildTurnComplete (result : TurnResult) : Except PyError TurnComplete := do
  let entities ← result.entities.mapM entityToProto
  let gap := result.gapAnalysis
  return {
    intent := result.intent
    entities
    acUpdates := result.acUpdates.map acUpdateToProto
    transitionReady := gap.elim false (·.isTerminal)
    gapCriterionId := ← gap.elim (.ok "") fun gap => protoString gap.criterionId
    suggestedQuestion := ← gap.elim (.ok "") fun gap => protoString gap.suggestedQuestion
    costUsd := FloatRounding.single result.costUsd
    nodeErrors := result.nodeErrors
    aborted := result.aborted }

/-- The events of the tokens, up to the first one that a message does not take. -/
def tokenEvents : List Text → List PipelineEvent × Option PyError
  | [] => ([], none)
  | text :: rest =>
      match protoText text with
      | .error error => ([], some error)
      | .ok token =>
          let (events, error) := tokenEvents rest
          (.token token :: events, error)

/-- The event that completes a turn, behind the events of its tokens. -/
def completeWith (events : List PipelineEvent) (result : TurnResult) : EventStream :=
  match buildTurnComplete result with
  | .ok turn => { events := events ++ [.complete turn], error := none }
  | .error error => { events, error := some error }

/-- The stream of a run.  The last result is sent after an abort too. -/
def streamOf (run : PipelineRun) : EventStream :=
  match tokenEvents run.tokens with
  | (events, some error) => { events, error := some error }
  | (events, none) =>
      match run.ending with
      | .raised error => { events, error := some error }
      | .finished result => completeWith events result
      | .aborted result => completeWith events result

end Messages

/-! ## The servicer -/

/-- A servicer as it was started: whether the message classes have been generated, its
configuration, the bound of the token queue as the executor looks it up in the
configuration, and its Redis connection. -/
structure AiOrchestrationServicer where
  protoAvailable : Bool
  config : OrchestrationConfig
  tokenQueueMaxsize : Except PyError Int
  redis : RedisConnection

namespace AiOrchestrationServicer

/-- A servicer over a configuration of the declared classes. -/
def new (protoAvailable : Bool) (config : OrchestrationConfig) (redis : RedisConnection) :
    AiOrchestrationServicer where
  protoAvailable
  config
  tokenQueueMaxsize := config.orchestration.tokenQueueMaxsize
  redis

variable [Runtime] [Rendering] (servicer : AiOrchestrationServicer)
  (environment : Environment)

/-- The run of the executor for a session document. -/
def runTurn (session : Json) (message : String) : PipelineRun :=
  PipelineExecutor.run servicer.config environment servicer.tokenQueueMaxsize session
    (.ofString message) (.forTurn servicer.config servicer.redis session)

def runPipeline (request : PipelineRequest) : EventStream :=
  if !servicer.protoAvailable then { events := [], error := none }
  else
    match protoSessionToDict request.sessionState with
    | .error error => { events := [], error := some error }
    | .ok session => streamOf (servicer.runTurn environment session request.userMessage)

end AiOrchestrationServicer

end Chitragupt
