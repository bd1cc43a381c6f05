import Chitragupt.Gateway.Readiness

/-!
# Reported turns

Three remote calls stand behind a turn, and each of them can fail.  The handler gives up
after a failure of the first two; when the turn cannot be applied it reports completion
all the same.
-/

namespace Chitragupt

open Python (PyError Json)

/-! ## The remote calls of a turn -/

/-- A remote call of the turn handler, with its outcome. -/
inductive RemoteCall where
  | getSessionState (sessionId workspaceId : String)
      (outcome : Except String SessionStateProto)
  | runPipeline (request : PipelineRequest) (outcome : PipelineResult × Option String)
  | applyTurnResult (request : TurnResultRequest)
      (outcome : Except String TurnResultResponse)

namespace RemoteCall

/-- The completion that a pipeline has sent. -/
def completed? : RemoteCall → Option TurnComplete
  | .runPipeline _ (result, _) => result.complete
  | _ => none

/-- The turn result that was applied. -/
def applied? : RemoteCall → Option TurnResultRequest
  | .applyTurnResult request (.ok _) => some request
  | _ => none

theorem filterMap_completed? (load : Except String SessionStateProto)
    (sessionId workspaceId : String) (request : PipelineRequest) (result : PipelineResult)
    (error : Option String) (turn : TurnResultRequest)
    (outcome : Except String TurnResultResponse) :
    [getSessionState sessionId workspaceId load, runPipeline request (result, error),
      applyTurnResult turn outcome].filterMap completed? = result.complete.toList := by
  rcases result with ⟨tokens, complete⟩
  cases complete <;> rfl

end RemoteCall

/-- The services behind the handler, as they answer during one turn.  The pipeline refuses
the call, or sends events until its stream ends, with or without an error. -/
structure Remotes where
  getSessionState : String → String → Except String SessionStateProto
  pipeline : PipelineRequest → Except String (List PipelineEvent × Option String)
  applyTurnResult : TurnResultRequest → Except String TurnResultResponse

/-- The streaming call of the orchestration client. -/
def Remotes.runPipeline (remotes : Remotes) (request : PipelineRequest) :
    PipelineResult × Option String :=
  match remotes.pipeline request with
  | .error error => ({}, some s!"RunPipeline: {error}")
  | .ok (events, error) =>
      (.collect events, error.map fun error => s!"RunPipeline stream: {error}")

namespace Handler

/-- The turn handler over services that may fail, with the calls that it makes.  A failure
of the last call is logged and nothing else. -/
def processTurnOver (remotes : Remotes) (flushes : Bool) (sessionId : String)
    (body : Option TurnReq) : List RemoteCall × TurnResponse :=
  match body with
  | none => ([], .jsonError "message is required" 400)
  | some request =>
      if request.message = "" then ([], .jsonError "message is required" 400)
      else
        let loaded := remotes.getSessionState sessionId request.workspaceId
        let load := RemoteCall.getSessionState sessionId request.workspaceId loaded
        match loaded with
        | .error _ => ([load], .jsonError "session not found" 404)
        | .ok sessionState =>
            if !flushes then ([load], .jsonError "streaming not supported" 500)
            else
              let pipeline : PipelineRequest :=
                { sessionState, userMessage := request.message }
              let (result, error) := remotes.runPipeline pipeline
              let run := RemoteCall.runPipeline pipeline (result, error)
              let tokens := result.tokens.map SseEvent.token
              match error with
              | some error => ([load, run], .stream (tokens ++ [.error error]))
              | none =>
                  let turn : TurnResultRequest :=
                    { sessionId
                      entities := result.complete.elim [] (·.entities)
                      acUpdates := result.complete.elim [] (·.acUpdates)
                      costUsd := result.complete.elim 0 (·.costUsd)
                      turnCountDelta := 1 }
                  let turnResp := remotes.applyTurnResult turn
                  ([load, run, .applyTurnResult turn turnResp], .stream (tokens ++
                    [.complete (marshal (completion result.complete turnResp.toOption))]))

section Reported

variable (remotes : Remotes) (flushes : Bool) (sessionId : String) (body : Option TurnReq)

/-- The pipeline of the turn has sent these events, and its stream has ended without an
error. -/
def Streams (events : List PipelineEvent) : Prop :=
  flushes = true ∧ ∃ request sessionState, body = some request ∧ request.message ≠ "" ∧
    remotes.getSessionState sessionId request.workspaceId = .ok sessionState ∧
    remotes.pipeline { sessionState, userMessage := request.message } = .ok (events, none)

/-- A completion event is sent. -/
def Completed : TurnResponse → Prop
  | .jsonError _ _ => False
  | .stream events => ∃ data, .complete data ∈ events

theorem completed_append (events : List SseEvent) (data : Option Json) :
    Completed (.stream (events ++ [.complete data])) :=
  ⟨data, List.mem_append_right _ (List.mem_singleton_self _)⟩

/-- The pipeline has completed a turn, and one call has succeeded in applying it. -/
def AppliedOnce (calls : List RemoteCall) : Prop :=
  ∃ turn request, calls.filterMap RemoteCall.completed? = [turn] ∧
    calls.filterMap RemoteCall.applied? = [request] ∧
    request.entities = turn.entities ∧ request.acUpdates = turn.acUpdates

/-- Completion is reported exactly for a turn that was applied once. -/
def HonestlyReported : Prop :=
  let (calls, response) := processTurnOver remotes flushes sessionId body
  Completed response ↔ AppliedOnce calls

/-- Without a stream that ends well nothing is applied and no completion is reported. -/
theorem processTurnOver_of_not_streams (broken : ∀ events,
    ¬Streams remotes flushes sessionId body events) :
    HonestlyReported remotes flushes sessionId body := by
  have silent : ∀ (calls : List RemoteCall) response,
      calls.filterMap RemoteCall.applied? = [] → ¬Completed response →
        (Completed response ↔ AppliedOnce calls) := by
    intro calls response idle unreported
    apply iff_of_false unreported
    rintro ⟨turn, request, _, applied, _⟩
    rw [idle] at applied
    cases applied
  rw [HonestlyReported]
  cases body with
  | none => exact silent _ _ rfl id
  | some request =>
      rw [processTurnOver]
      by_cases empty : request.message = ""
      · rw [if_pos empty]
        exact silent _ _ rfl id
      rw [if_neg empty]
      cases loaded : remotes.getSessionState sessionId request.workspaceId with
      | error error => exact silent _ _ rfl id
      | ok sessionState =>
          cases flushes with
          | false => exact silent _ _ rfl id
          | true =>
              dsimp only
              cases ran : remotes.pipeline { sessionState, userMessage := request.message } with
              | error error =>
                  rw [Remotes.runPipeline, ran]
                  refine silent _ _ rfl ?_
                  rintro ⟨data, member⟩
                  simp at member
              | ok stream =>
                  rcases stream with ⟨events, error⟩
                  cases error with
                  | none =>
                      exact absurd ⟨rfl, request, sessionState, rfl, empty, loaded, ran⟩
                        (broken events)
                  | some error =>
                      rw [Remotes.runPipeline, ran]
                      refine silent _ _ rfl ?_
                      rintro ⟨data, member⟩
                      simp at member

/-- After a stream that ends well, the handler applies the turn and reports it. -/
theorem processTurnOver_of_streams {events : List PipelineEvent}
    (streams : Streams remotes flushes sessionId body events) :
    HonestlyReported remotes flushes sessionId body ↔
      ∃ turn, (PipelineResult.collect events).complete = some turn ∧
        ∃ response, remotes.applyTurnResult (applyRequest sessionId turn) = .ok response := by
  rcases streams with ⟨rfl, request, sessionState, rfl, spoken, loaded, ran⟩
  rw [HonestlyReported, processTurnOver]
  rw [if_neg spoken, loaded]
  dsimp only
  rw [Remotes.runPipeline, ran]
  simp only [Bool.not_true, Bool.false_eq_true, if_false, Option.map_none]
  rw [iff_true_left (completed_append _ _)]
  cases completed : (PipelineResult.collect events).complete with
  | none =>
      -- The turn is applied without any content, but there is no completion to apply.
      apply iff_of_false
      · rintro ⟨turn, _, sent, _⟩
        rw [RemoteCall.filterMap_completed?, completed] at sent
        cases sent
      · rintro ⟨turn, sent, _⟩
        cases sent
  | some turn =>
      rw [Option.elim_some, Option.elim_some, Option.elim_some]
      cases applied : remotes.applyTurnResult (applyRequest sessionId turn) with
      | error error =>
          rw [applyRequest] at applied
          apply iff_of_false
          · rintro ⟨_, request, _, once, _⟩
            rw [applied] at once
            cases once
          · rintro ⟨other, same, response, done⟩
            rcases Option.some.inj same with rfl
            rw [applyRequest, applied] at done
            cases done
      | ok response =>
          rw [applyRequest] at applied
          apply iff_of_true
          · rw [applied]
            refine ⟨turn, applyRequest sessionId turn, ?_, rfl, rfl, rfl⟩
            rw [RemoteCall.filterMap_completed?, completed]
            rfl
          · exact ⟨turn, rfl, response, by rw [applyRequest, applied]⟩

theorem honestlyReported_of_applied (applied : ∀ events,
    Streams remotes flushes sessionId body events →
      ∃ turn, (PipelineResult.collect events).complete = some turn ∧
        ∃ response, remotes.applyTurnResult (applyRequest sessionId turn) = .ok response) :
    HonestlyReported remotes flushes sessionId body := by
  by_cases streams : ∃ events, Streams remotes flushes sessionId body events
  · rcases streams with ⟨events, streams⟩
    exact (processTurnOver_of_streams remotes flushes sessionId body streams).mpr
      (applied events streams)
  · exact processTurnOver_of_not_streams remotes flushes sessionId body
      (not_exists.mp streams)

/-- Completion is honestly reported exactly when a stream that ends well has completed the
turn and the turn could be applied. -/
theorem honestlyReported_iff :
    HonestlyReported remotes flushes sessionId body ↔
      ∀ events, Streams remotes flushes sessionId body events →
        ∃ turn, (PipelineResult.collect events).complete = some turn ∧
          ∃ response, remotes.applyTurnResult (applyRequest sessionId turn) =
            .ok response := by
  constructor
  · intro honest events streams
    exact (processTurnOver_of_streams remotes flushes sessionId body streams).mp honest
  · exact honestlyReported_of_applied remotes flushes sessionId body

end Reported

end Handler

/-! ## The services themselves -/

namespace Handler

section Engine

variable [Runtime] [Rendering] (servicer : AiOrchestrationServicer)
  (environment : Environment) (ambient : Ambient) (rpcError : PyError → String)

/-- The state engine and the orchestration servicer behind a network that loses nothing. -/
def remotesOf (service : StateEngineService) : Remotes where
  getSessionState sessionId workspaceId :=
    (service.getSessionState { sessionId, workspaceId }).mapError (·.message)
  pipeline request :=
    let stream := servicer.runPipeline environment request
    .ok (stream.events, stream.error.map rpcError)
  applyTurnResult request := (service.applyTurnResult ambient request).2.mapError (·.message)

omit [Rendering] in
/-- What a call changes in the state engine. -/
def effect (service : StateEngineService) : RemoteCall → StateEngineService
  | .applyTurnResult request _ => (service.applyTurnResult ambient request).1
  | _ => service

/-- A turn on the services is a turn over their answers, and the state engine has served
its calls. -/
theorem processTurn_eq_over (sessionId : String) (body : Option TurnReq)
    (service : StateEngineService) :
    processTurn servicer environment ambient rpcError sessionId body service =
      let (calls, response) := processTurnOver
        (remotesOf servicer environment ambient rpcError service) true sessionId body
      (calls.foldl (effect ambient) service, response) := by
  cases body with
  | none => rfl
  | some request =>
      rw [processTurn, processTurnOver]
      split
      · rfl
      · simp only [remotesOf, Remotes.runPipeline]
        cases service.getSessionState { sessionId, workspaceId := request.workspaceId } with
        | error status => rfl
        | ok sessionState =>
            have loaded : (Except.ok sessionState : Except Status SessionStateProto).mapError
                (·.message) = .ok sessionState := rfl
            rw [loaded]
            dsimp only
            cases (servicer.runPipeline environment
                { sessionState, userMessage := request.message }).error with
            | some error => rfl
            | none =>
                dsimp only [Option.map_none]
                simp only [Bool.not_true, Bool.false_eq_true, if_false,
                  Python.toOption_mapError]
                rfl

/-- Between the services themselves completion is honestly reported, as long as the
message classes have been generated. -/
theorem honestlyReported_remotesOf (available : servicer.protoAvailable = true)
    (service : StateEngineService) (sessionId : String) (body : Option TurnReq) :
    HonestlyReported (remotesOf servicer environment ambient rpcError service) true sessionId
      body := by
  apply honestlyReported_of_applied
  rintro events ⟨_, request, sessionState, _, _, loaded, ran⟩
  have found : service.getSessionState { sessionId, workspaceId := request.workspaceId } =
      .ok sessionState := Python.mapError_eq_ok.mp loaded
  rw [StateEngineService.getSessionState] at found
  cases parsed : StateEngineService.parseUuid sessionId "session_id" with
  | error status => simp [parsed] at found
  | ok id =>
      cases stored : service.sessions id with
      | none => simp [parsed, stored] at found
      | some state =>
          simp only [parsed, stored, Except.ok.injEq] at found
          subst found
          obtain ⟨texts, completed, error, stream, last, _⟩ :=
            streamOf_eq (servicer.runTurn environment state.toJson request.message)
          simp only [remotesOf, runPipeline_stateToProto servicer environment state
            request.message available, stream, Except.ok.injEq, Prod.mk.injEq,
            Option.map_eq_none_iff] at ran
          rcases ran with ⟨rfl, ended⟩
          rcases Option.isSome_iff_exists.mp (last.mpr ended) with ⟨turn, rfl⟩
          refine ⟨turn, ?_, ?_⟩
          · rw [PipelineResult.collect_eventsOf]
          · simp only [remotesOf, StateEngineService.applyTurnResult, applyRequest, parsed,
              stored]
            exact ⟨_, rfl⟩

end Engine

end Handler

/-! ### A turn that could not be applied -/

section Sample

/-- The turn takes longer than the deadline of the last call. -/
def sampleRemotes : Remotes where
  getSessionState sessionId workspaceId := .ok
    { sessionId
      workspaceId
      projectId := ""
      currentPhase := "ProblemIntake"
      turnCount := 0
      totalCostUsd := 0
      acMet := []
      acWaived := []
      documentsIndexed := []
      stateJson := none }
  pipeline _ := .ok ([.token "Who", .complete
    { intent := "ProblemCapture"
      entities := []
      acUpdates := []
      transitionReady := false
      gapCriterionId := "AC-S1-02"
      suggestedQuestion := ""
      costUsd := 0
      nodeErrors := []
      aborted := false }], none)
  applyTurnResult _ := .error "context deadline exceeded"

/-- The client is told that the turn is complete, and nothing was applied. -/
theorem not_honestlyReported_of_sampleRemotes :
    ¬∀ remotes flushes sessionId body,
      Handler.HonestlyReported remotes flushes sessionId body := by
  intro all
  let request : TurnReq :=
    { message := "We send invoices by hand.", workspaceId := "" }
  have streams : Handler.Streams sampleRemotes true "" (some request)
      (([.token "Who"] : List PipelineEvent) ++ [_]) :=
    ⟨rfl, request, _, rfl, by decide, rfl, rfl⟩
  have honest := (Handler.processTurnOver_of_streams sampleRemotes true "" (some request)
    streams).mp (all sampleRemotes true "" (some request))
  rcases honest with ⟨turn, _, response, applied⟩
  cases applied

end Sample

end Chitragupt
