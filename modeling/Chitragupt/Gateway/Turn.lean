import Chitragupt.Pipeline.Servicer
import Chitragupt.StateMachine.Service

/-!
# The turn handler of the gateway

The gateway loads the session from the state engine, forwards the turn stream as
server-sent events, and sends the completed turn back to the state engine before it
reports completion.
-/

namespace Chitragupt

open Python (PyError Json)

/-! ## The orchestration client -/

/-- The outcome of one streaming call. -/
structure PipelineResult where
  tokens : List String := []
  complete : Option TurnComplete := none

namespace PipelineResult

/-- One round of the receiving loop. -/
def receive (result : PipelineResult) : PipelineEvent → PipelineResult
  | .token text => { result with tokens := result.tokens ++ [text] }
  | .complete turn => { result with complete := some turn }

/-- All events of a stream. -/
def collect (events : List PipelineEvent) : PipelineResult := events.foldl receive {}

end PipelineResult

/-! ## The handler -/

structure TurnReq where
  message : String
  workspaceId : String

/-- An event of the response.  The data of a completion is missing when it could not be
written as JSON. -/
inductive SseEvent where
  | token (text : String)
  | error (message : String)
  | complete (data : Option Json)

inductive TurnResponse where
  | jsonError (message : String) (status : Nat)
  | stream (events : List SseEvent)

namespace Handler

/-- The fields of a completion event, in the order of their assignment. -/
def completion (complete : Option TurnComplete) (turnResp : Option TurnResultResponse) :
    List (String × Json) :=
  let turn : List (String × Json) :=
    complete.elim [] fun turn =>
      [ ("intent", .ofString turn.intent),
        ("transition_ready", .bool turn.transitionReady),
        ("gap_criterion_id", .ofString turn.gapCriterionId),
        ("suggested_question", .ofString turn.suggestedQuestion),
        ("cost_usd", .float turn.costUsd),
        ("aborted", .bool turn.aborted) ]
  let response : List (String × Json) :=
    turnResp.elim [] fun response =>
      [ ("current_phase", .ofString response.currentPhase),
        ("unmet_ac_count", .int response.unmetAcCount) ]
  ("type", .ofString "complete") :: turn ++ response

/-- Whether a value can be written as JSON: infinities and NaN cannot. -/
def isMarshallable : Json → Bool
  | .float (.finite _) => true
  | .float _ => false
  | _ => true

/-- `json.Marshal` of an object of scalars. -/
def marshal (fields : List (String × Json)) : Option Json :=
  if fields.all fun (_, value) => isMarshallable value then some (objectJson fields) else none

variable [Runtime] [Rendering] (servicer : AiOrchestrationServicer)
  (environment : Environment) (ambient : Ambient) (rpcError : PyError → String)

/-- The turn handler.  The turn is applied whatever its outcome was, as long as its
stream has ended without an error. -/
def processTurn (sessionId : String) (body : Option TurnReq) (service : StateEngineService) :
    StateEngineService × TurnResponse :=
  match body with
  | none => (service, .jsonError "message is required" 400)
  | some request =>
      if request.message = "" then (service, .jsonError "message is required" 400)
      else
        match service.getSessionState { sessionId, workspaceId := request.workspaceId } with
        | .error _ => (service, .jsonError "session not found" 404)
        | .ok sessionState =>
            let stream := servicer.runPipeline environment
              { sessionState, userMessage := request.message }
            let result := PipelineResult.collect stream.events
            let tokens := result.tokens.map SseEvent.token
            match stream.error with
            | some error =>
                (service, .stream
                  (tokens ++ [.error s!"RunPipeline stream: {rpcError error}"]))
            | none =>
                let (service, turnResp) := service.applyTurnResult ambient
                  { sessionId
                    entities := result.complete.elim [] (·.entities)
                    acUpdates := result.complete.elim [] (·.acUpdates)
                    costUsd := result.complete.elim 0 (·.costUsd)
                    turnCountDelta := 1 }
                (service, .stream (tokens ++
                  [.complete (marshal (completion result.complete turnResp.toOption))]))

end Handler

end Chitragupt
