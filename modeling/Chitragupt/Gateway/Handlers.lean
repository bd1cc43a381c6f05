import Chitragupt.Gateway.Turn
import Chitragupt.Ingestion.Uploads

/-!
# The handlers of the gateway

Every handler but the one of turns checks its request, makes one remote call and answers
with one JSON object.  A turn makes three calls, and other requests are served between
the first and the last one; its handler is given here in two halves.
-/

namespace Chitragupt

open Python (PyError Json)

/-- The answer to a request: a JSON object, missing when it could not be written, or the
events of a turn. -/
inductive HttpResponse where
  | json (status : Nat) (body : Option Json)
  | stream (events : List SseEvent)

structure CreateSessionReq where
  workspaceId : String
  projectId : String

structure TransitionReq where
  targetPhase : String

structure RevisitReq where
  targetPhase : String

/-- The file of an upload, with the fields of its form. -/
structure UploadedFile where
  filename : String
  content : List UInt8
  workspaceId : String
  projectId : String
  documentId : String

/-- What parsing the form of an upload gives. -/
inductive MultipartForm where
  | malformed
  | withoutFile
  | unreadable
  | uploaded (file : UploadedFile)

namespace Handler

/-! ## One remote call -/

def jsonOK (body : List (String × Json)) : HttpResponse := .json 200 (marshal body)

def jsonError (message : String) (status : Nat) : HttpResponse :=
  .json status (some (objectJson [("error", .ofString message)]))

/-- A list of a message as JSON.  An empty one has been decoded to `nil`. -/
def stringsJson (values : List String) : Json :=
  if values = [] then .null else listJson .ofString values

def sessionStateJson (proto : SessionStateProto) : List (String × Json) :=
  [ ("session_id", .ofString proto.sessionId),
    ("workspace_id", .ofString proto.workspaceId),
    ("project_id", .ofString proto.projectId),
    ("current_phase", .ofString proto.currentPhase),
    ("turn_count", .int proto.turnCount.toInt),
    ("total_cost_usd", .float proto.totalCostUsd),
    ("ac_met", stringsJson proto.acMet),
    ("ac_waived", stringsJson proto.acWaived),
    ("documents_indexed", stringsJson proto.documentsIndexed) ]

section Engine

variable [Runtime] (service : StateEngineService)

def createSession (ambient : Ambient) (body : Option CreateSessionReq) :
    StateEngineService × HttpResponse :=
  match body with
  | none => (service, jsonError "invalid request body" 400)
  | some request =>
      if request.workspaceId = "" ∨ request.projectId = "" then
        (service, jsonError "workspace_id and project_id are required" 400)
      else
        match service.createSession ambient
            { workspaceId := request.workspaceId, projectId := request.projectId } with
        | (service, .error _) => (service, jsonError "failed to create session" 500)
        | (service, .ok response) =>
            (service, jsonOK
              [ ("session_id", .ofString response.sessionId),
                ("current_phase", .ofString response.currentPhase) ])

def getSession (sessionId workspaceId : String) : HttpResponse :=
  match service.getSessionState { sessionId, workspaceId } with
  | .error _ => jsonError "session not found" 404
  | .ok state => jsonOK (sessionStateJson state)

def requestTransition (sessionId : String) (body : Option TransitionReq) :
    StateEngineService × HttpResponse :=
  match body with
  | none => (service, jsonError "target_phase is required" 400)
  | some request =>
      if request.targetPhase = "" then (service, jsonError "target_phase is required" 400)
      else
        match service.requestTransition { sessionId, targetPhase := request.targetPhase } with
        | (service, .error _) => (service, jsonError "transition request failed" 500)
        | (service, .ok response) =>
            (service, .json (if response.approved then 200 else 409) (marshal
              [ ("approved", .bool response.approved),
                ("current_phase", .ofString response.currentPhase),
                ("error", .ofString response.errorMessage) ]))

def revisitPhase (ambient : Ambient) (sessionId : String) (body : Option RevisitReq) :
    StateEngineService × HttpResponse :=
  match body with
  | none => (service, jsonError "target_phase is required" 400)
  | some request =>
      if request.targetPhase = "" then (service, jsonError "target_phase is required" 400)
      else
        match service.revisitPhase ambient
            { sessionId, targetPhase := request.targetPhase } with
        | (service, .error _) => (service, jsonError "revisit failed" 500)
        | (service, .ok response) =>
            (service, .json (if response.ok then 200 else 409) (marshal
              [ ("ok", .bool response.ok),
                ("current_phase", .ofString response.currentPhase),
                ("error", .ofString response.errorMessage) ]))

end Engine

/-- The upload handler.  A call that returns nothing fails, as there is nothing to send. -/
def uploadDocument [Runtime] (ingest : IngestServicer) (pipeline : IngestionPipeline)
    (createFault : Option PyError) (sessionId : String) (form : MultipartForm)
    (uploads : Uploads) : Uploads × HttpResponse :=
  match form with
  | .malformed => (uploads, jsonError "failed to parse multipart form" 400)
  | .withoutFile => (uploads, jsonError "file field is required" 400)
  | .unreadable => (uploads, jsonError "failed to read file" 500)
  | .uploaded file =>
      let request : IngestRequest :=
        { documentId := file.documentId
          workspaceId := file.workspaceId
          projectId := file.projectId
          sessionId
          filename := file.filename
          content := file.content }
      match ingest.ingestDocument request pipeline createFault uploads with
      | (uploads, .error _) => (uploads, jsonError "ingestion failed" 500)
      | (uploads, .ok none) => (uploads, jsonError "ingestion failed" 500)
      | (uploads, .ok (some response)) =>
          (uploads, jsonOK
            [ ("document_id", .ofString response.documentId),
              ("status", .ofString response.status) ])

end Handler

/-! ## The two halves of a turn -/

/-- A turn whose session has been loaded. -/
structure OpenTurn where
  sessionId : String
  message : String
  sessionState : SessionStateProto

/-- What becomes of the call to the pipeline: it is refused, its stream breaks off, or
the stream is received as it was sent. -/
inductive PipelineCall where
  | refused (message : String)
  | broken (received : Nat) (message : String)
  | received

/-- What becomes of the call that applies a turn.  It can fail before it takes effect, and
after that. -/
inductive Delivery where
  | lost
  | unanswered
  | answered

/-- The response of a turn. -/
def TurnResponse.http : TurnResponse → HttpResponse
  | .jsonError message status => Handler.jsonError message status
  | .stream events => .stream events

namespace Handler

variable [Runtime]

/-- The turn handler up to the first remote call. -/
def openTurn (sessionId : String) (body : Option TurnReq) (service : StateEngineService) :
    Except TurnResponse OpenTurn :=
  match body with
  | none => .error (.jsonError "message is required" 400)
  | some request =>
      if request.message = "" then .error (.jsonError "message is required" 400)
      else
        match service.getSessionState { sessionId, workspaceId := request.workspaceId } with
        | .error _ => .error (.jsonError "session not found" 404)
        | .ok sessionState => .ok { sessionId, message := request.message, sessionState }

/-- What the gateway sends to have a turn applied. -/
def turnResultRequest (sessionId : String) (complete : Option TurnComplete) :
    TurnResultRequest where
  sessionId
  entities := complete.elim [] (·.entities)
  acUpdates := complete.elim [] (·.acUpdates)
  costUsd := complete.elim 0 (·.costUsd)
  turnCountDelta := 1

/-- The call that applies a turn, and the response that arrives. -/
def applyTurn (delivery : Delivery) (ambient : Ambient) (request : TurnResultRequest)
    (service : StateEngineService) : StateEngineService × Option TurnResultResponse :=
  match delivery with
  | .lost => (service, none)
  | .unanswered => ((service.applyTurnResult ambient request).1, none)
  | .answered =>
      let (service, response) := service.applyTurnResult ambient request
      (service, response.toOption)

/-- The events that are received of a stream, and the error that ends them. -/
def receive (rpcError : PyError → String) (call : PipelineCall) (stream : EventStream) :
    List PipelineEvent × Option String :=
  match call with
  | .refused message => ([], some s!"RunPipeline: {message}")
  | .broken received message =>
      (stream.events.take received, some s!"RunPipeline stream: {message}")
  | .received =>
      (stream.events, stream.error.map fun error => s!"RunPipeline stream: {rpcError error}")

/-- A turn is opened on a session that is there. -/
theorem exists_of_openTurn {sessionId : String} {body : Option TurnReq}
    {service : StateEngineService} {turn : OpenTurn}
    (opened : openTurn sessionId body service = .ok turn) :
    ∃ id state, service.sessions id = some state ∧
      turn.sessionState = StateEngineService.stateToProto state := by
  cases body with
  | none => cases opened
  | some request =>
      rw [openTurn] at opened
      split at opened
      next => cases opened
      next =>
        cases loaded : service.getSessionState
            { sessionId := sessionId, workspaceId := request.workspaceId } with
        | error status =>
            rw [loaded] at opened
            cases opened
        | ok sessionState =>
            rw [loaded, Except.ok.injEq] at opened
            subst opened
            rw [StateEngineService.getSessionState] at loaded
            split at loaded
            next => cases loaded
            next id _ =>
              split at loaded
              next => cases loaded
              next state found => exact ⟨id, state, found, (Except.ok.inj loaded).symm⟩

/-- A turn that is not opened is refused with a JSON error. -/
theorem jsonError_of_openTurn {sessionId : String} {body : Option TurnReq}
    {service : StateEngineService} {response : TurnResponse}
    (refused : openTurn sessionId body service = .error response) :
    ∃ message status, response = .jsonError message status := by
  cases body with
  | none => exact ⟨_, _, (Except.error.inj refused).symm⟩
  | some request =>
      rw [openTurn] at refused
      split at refused
      next => exact ⟨_, _, (Except.error.inj refused).symm⟩
      next =>
        split at refused
        next => exact ⟨_, _, (Except.error.inj refused).symm⟩
        next => cases refused

variable [Rendering] (servicer : AiOrchestrationServicer) (rpcError : PyError → String)

/-- What the gateway receives of the turn stream. -/
def received (environment : Environment) (call : PipelineCall) (turn : OpenTurn) :
    List PipelineEvent × Option String :=
  receive rpcError call (servicer.runPipeline environment
    { sessionState := turn.sessionState, userMessage := turn.message })

/-- The turn handler from there on. -/
def closeTurn (environment : Environment) (call : PipelineCall) (delivery : Delivery)
    (ambient : Ambient) (turn : OpenTurn) (service : StateEngineService) :
    StateEngineService × TurnResponse :=
  let (events, error) := received servicer rpcError environment call turn
  let result := PipelineResult.collect events
  let tokens := result.tokens.map SseEvent.token
  match error with
  | some error => (service, .stream (tokens ++ [.error error]))
  | none =>
      let (service, turnResp) := applyTurn delivery ambient
        (turnResultRequest turn.sessionId result.complete) service
      (service, .stream (tokens ++ [.complete (marshal (completion result.complete turnResp))]))

section Close

variable {servicer} {rpcError} {environment : Environment} {call : PipelineCall}
  {turn : OpenTurn} {events : List PipelineEvent}

/-- A turn whose stream fails is not applied. -/
theorem closeTurn_of_error {error : String}
    (streamed : received servicer rpcError environment call turn = (events, some error))
    {delivery : Delivery} {ambient : Ambient} {service : StateEngineService} :
    closeTurn servicer rpcError environment call delivery ambient turn service =
      (service, .stream ((PipelineResult.collect events).tokens.map SseEvent.token ++
        [.error error])) := by
  rw [closeTurn, streamed]

/-- A turn whose stream ends well is sent to be applied, and completed in any case. -/
theorem closeTurn_of_received
    (streamed : received servicer rpcError environment call turn = (events, none))
    {delivery : Delivery} {ambient : Ambient} {service : StateEngineService} :
    closeTurn servicer rpcError environment call delivery ambient turn service =
      ((applyTurn delivery ambient (turnResultRequest turn.sessionId
          (PipelineResult.collect events).complete) service).1,
        .stream ((PipelineResult.collect events).tokens.map SseEvent.token ++
          [.complete (marshal (completion (PipelineResult.collect events).complete
            (applyTurn delivery ambient (turnResultRequest turn.sessionId
              (PipelineResult.collect events).complete) service).2))])) := by
  rw [closeTurn, streamed]

end Close

/-- With nothing in between and all calls answered, the halves make up a turn. -/
theorem processTurn_eq (environment : Environment) (ambient : Ambient) (sessionId : String)
    (body : Option TurnReq) (service : StateEngineService) :
    processTurn servicer environment ambient rpcError sessionId body service =
      match openTurn sessionId body service with
      | .error response => (service, response)
      | .ok turn =>
          closeTurn servicer rpcError environment .received .answered ambient turn service := by
  cases body with
  | none => rfl
  | some request =>
      rw [processTurn, openTurn]
      by_cases empty : request.message = ""
      · simp only [empty, if_true]
      · simp only [empty, if_false]
        cases service.getSessionState
            { sessionId := sessionId, workspaceId := request.workspaceId } with
        | error status => rfl
        | ok sessionState =>
            simp only [closeTurn, received, receive]
            cases (servicer.runPipeline environment
              { sessionState, userMessage := request.message }).error <;> rfl

end Handler

end Chitragupt
