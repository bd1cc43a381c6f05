import Chitragupt.Gateway.Handlers
import Chitragupt.StateMachine.Runs

/-!
# The three services together

The gateway in front of the state engine and the orchestration service.  Requests are
served in any order, uploads are processed in the background, and between the two halves
of a turn anything else can happen.  To the state engine all this is one run of RPCs.
-/

namespace Chitragupt

open Python (PyError Json)
open Machines (Machine Event)

/-- The services as they were deployed, with the lookup of chunks in the tables. -/
structure Deployment where
  servicer : AiOrchestrationServicer
  ingest : IngestServicer
  search : Uploads → RetrievalRequest → Outcome (List ChunkRef)
  rpcError : PyError → String

/-- The sessions, the documents and the turns that have been loaded. -/
structure Platform (κ : Type*) where
  engine : StateEngineService
  uploads : Uploads
  turns : κ → Option OpenTurn

def Platform.initial {κ : Type*} (uploads : Uploads) : Platform κ where
  engine := .new
  uploads
  turns _ := none

/-- What happens next: a request, half a turn, or a move of a run in the background. -/
inductive PlatformInput (κ : Type*) where
  | createSession (ambient : Ambient) (body : Option CreateSessionReq)
  | getSession (sessionId workspaceId : String)
  | openTurn (key : κ) (sessionId : String) (body : Option TurnReq)
  | closeTurn (key : κ) (environment : Environment) (call : PipelineCall)
      (delivery : Delivery) (ambient : Ambient)
  | requestTransition (sessionId : String) (body : Option TransitionReq)
  | revisitPhase (ambient : Ambient) (sessionId : String) (body : Option RevisitReq)
  | uploadDocument (pipeline : IngestionPipeline) (createFault : Option PyError)
      (sessionId : String) (form : MultipartForm)
  | ingest (task : Nat)

namespace Deployment

variable {κ : Type*} [DecidableEq κ] [Runtime] [Rendering] (deployment : Deployment)

/-- The environment of a turn, with the documents as they are now. -/
def environment (around : Environment) (uploads : Uploads) : Environment :=
  { around with search := deployment.search uploads }

/-- The platform.  A turn in between answers nothing yet. -/
def machine : Machine (Platform κ) (PlatformInput κ) (Option HttpResponse) where
  step platform
    | .createSession ambient body =>
        let (engine, response) := Handler.createSession platform.engine ambient body
        ({ platform with engine }, some response)
    | .getSession sessionId workspaceId =>
        (platform, some (Handler.getSession platform.engine sessionId workspaceId))
    | .openTurn key sessionId body =>
        match platform.turns key, Handler.openTurn sessionId body platform.engine with
        | some _, _ => (platform, none)
        | none, .error response => (platform, some response.http)
        | none, .ok turn =>
            ({ platform with turns := Function.update platform.turns key (some turn) }, none)
    | .closeTurn key environment call delivery ambient =>
        match platform.turns key with
        | none => (platform, none)
        | some turn =>
            let (engine, response) := Handler.closeTurn deployment.servicer deployment.rpcError
              (deployment.environment environment platform.uploads) call delivery ambient turn
              platform.engine
            ({ platform with engine, turns := Function.update platform.turns key none },
              some response.http)
    | .requestTransition sessionId body =>
        let (engine, response) := Handler.requestTransition platform.engine sessionId body
        ({ platform with engine }, some response)
    | .revisitPhase ambient sessionId body =>
        let (engine, response) := Handler.revisitPhase platform.engine ambient sessionId body
        ({ platform with engine }, some response)
    | .uploadDocument pipeline createFault sessionId form =>
        let (uploads, response) := Handler.uploadDocument deployment.ingest pipeline createFault
          sessionId form platform.uploads
        ({ platform with uploads }, some response)
    | .ingest task =>
        ({ platform with uploads := deployment.ingest.machine.next platform.uploads (.move task) },
          none)

/-- An open turn was open before, or it has just been opened. -/
theorem turns_next {platform : Platform κ} {input : PlatformInput κ} {key : κ}
    {turn : OpenTurn} (opened : (deployment.machine.next platform input).turns key = some turn) :
    platform.turns key = some turn ∨ ∃ sessionId body,
      input = .openTurn key sessionId body ∧
        Handler.openTurn sessionId body platform.engine = .ok turn := by
  cases input with
  | createSession _ _ | getSession _ _ | requestTransition _ _ | revisitPhase _ _ _
  | uploadDocument _ _ _ _ | ingest _ => exact .inl opened
  | openTurn other sessionId body =>
      simp only [Machine.next, machine] at opened
      split at opened
      next => exact .inl opened
      next => exact .inl opened
      next loaded _ found =>
        dsimp only at opened
        by_cases same : key = other
        · subst same
          rw [Function.update_self, Option.some.injEq] at opened
          exact .inr ⟨sessionId, body, rfl, opened ▸ found⟩
        · rw [Function.update_of_ne same] at opened
          exact .inl opened
  | closeTurn other _ _ _ _ =>
      simp only [Machine.next, machine] at opened
      split at opened
      next => exact .inl opened
      next =>
        dsimp only at opened
        by_cases same : key = other
        · rw [same, Function.update_self] at opened
          cases opened
        · rw [Function.update_of_ne same] at opened
          exact .inl opened

/-! ## The RPCs of a request -/

/-- The request that applies a turn, if its stream ends well. -/
def turnResult (around : Environment) (call : PipelineCall) (turn : OpenTurn)
    (uploads : Uploads) : Option TurnResultRequest :=
  match Handler.received deployment.servicer deployment.rpcError
      (deployment.environment around uploads) call turn with
  | (_, some _) => none
  | (events, none) =>
      some (Handler.turnResultRequest turn.sessionId (PipelineResult.collect events).complete)

/-- The RPC through which an input reaches the sessions. -/
def rpc (platform : Platform κ) : PlatformInput κ → Option ServiceRequest
  | .createSession _ none => none
  | .createSession ambient (some request) =>
      if request.workspaceId = "" ∨ request.projectId = "" then none
      else some (.createSession ambient
        { workspaceId := request.workspaceId, projectId := request.projectId })
  | .getSession sessionId workspaceId => some (.getSessionState { sessionId, workspaceId })
  | .openTurn _ _ _ => none
  | .closeTurn _ _ _ .lost _ => none
  | .closeTurn key environment call _ ambient =>
      (platform.turns key).bind fun turn =>
        (deployment.turnResult environment call turn platform.uploads).map
          (.applyTurnResult ambient)
  | .requestTransition _ none => none
  | .requestTransition sessionId (some request) =>
      if request.targetPhase = "" then none
      else some (.requestTransition { sessionId, targetPhase := request.targetPhase })
  | .revisitPhase _ _ none => none
  | .revisitPhase ambient sessionId (some request) =>
      if request.targetPhase = "" then none
      else some (.revisitPhase ambient { sessionId, targetPhase := request.targetPhase })
  | .uploadDocument _ _ _ _ => none
  | .ingest _ => none

/-- Which input sends which RPC. -/
inductive Sends : PlatformInput κ → ServiceRequest → Prop
  | createSession (ambient : Ambient) (body : Option CreateSessionReq)
      (request : CreateSessionRequest) :
      Sends (.createSession ambient body) (.createSession ambient request)
  | getSession (sessionId workspaceId : String) :
      Sends (.getSession sessionId workspaceId) (.getSessionState { sessionId, workspaceId })
  | closeTurn (key : κ) (around : Environment) (call : PipelineCall) (delivery : Delivery)
      (ambient : Ambient) (request : TurnResultRequest) (single : request.turnCountDelta = 1) :
      Sends (.closeTurn key around call delivery ambient) (.applyTurnResult ambient request)
  | requestTransition (sessionId : String) (body : Option TransitionReq)
      (request : TransitionRequest) :
      Sends (.requestTransition sessionId body) (.requestTransition request)
  | revisitPhase (ambient : Ambient) (sessionId : String) (body : Option RevisitReq)
      (request : RevisitRequest) :
      Sends (.revisitPhase ambient sessionId body) (.revisitPhase ambient request)

omit [DecidableEq κ] in
theorem sends_of_rpc {platform : Platform κ} {input : PlatformInput κ}
    {request : ServiceRequest} (sent : deployment.rpc platform input = some request) :
    Sends input request := by
  cases input with
  | openTurn _ _ _ | uploadDocument _ _ _ _ | ingest _ => cases sent
  | getSession sessionId workspaceId =>
      rcases Option.some.inj sent with rfl
      exact .getSession sessionId workspaceId
  | createSession ambient body =>
      cases body with
      | none => cases sent
      | some body =>
          rw [rpc] at sent
          split at sent
          next => cases sent
          next =>
            rcases Option.some.inj sent with rfl
            exact .createSession ambient _ _
  | closeTurn key around call delivery ambient =>
      cases delivery with
      | lost => cases sent
      | unanswered | answered =>
          rw [rpc, Option.bind_eq_some_iff] at sent
          · rcases sent with ⟨turn, _, result⟩
            rcases Option.map_eq_some_iff.mp result with ⟨request, built, rfl⟩
            refine .closeTurn key around call _ ambient request ?_
            rw [turnResult] at built
            split at built
            next => cases built
            next => exact Option.some.inj built ▸ rfl
          · intro lost
            cases lost
  | requestTransition sessionId body =>
      cases body with
      | none => cases sent
      | some body =>
          rw [rpc] at sent
          split at sent
          next => cases sent
          next =>
            rcases Option.some.inj sent with rfl
            exact .requestTransition sessionId _ _
  | revisitPhase ambient sessionId body =>
      cases body with
      | none => cases sent
      | some body =>
          rw [rpc] at sent
          split at sent
          next => cases sent
          next =>
            rcases Option.some.inj sent with rfl
            exact .revisitPhase ambient sessionId _ _

/-- The RPCs of a run, in order. -/
def rpcs (platform : Platform κ) (inputs : List (PlatformInput κ)) : List ServiceRequest :=
  (deployment.machine.trace platform inputs).filterMap fun happened =>
    deployment.rpc happened.before happened.input

theorem rpcs_cons (platform : Platform κ) (input : PlatformInput κ)
    (inputs : List (PlatformInput κ)) :
    deployment.rpcs platform (input :: inputs) =
      (deployment.rpc platform input).toList ++
        deployment.rpcs (deployment.machine.next platform input) inputs := by
  rw [rpcs, Machine.trace_cons, List.filterMap_cons, Machine.event]
  dsimp only
  cases deployment.rpc platform input <;> rfl

/-- A turn reaches the sessions if its result is sent and not lost. -/
theorem fst_closeTurn (around : Environment) (call : PipelineCall) (delivery : Delivery)
    (ambient : Ambient) (turn : OpenTurn) (uploads : Uploads) (service : StateEngineService) :
    (Handler.closeTurn deployment.servicer deployment.rpcError
        (deployment.environment around uploads) call delivery ambient turn service).1 =
      match delivery with
      | .lost => service
      | .unanswered | .answered =>
          (deployment.turnResult around call turn uploads).elim service fun request =>
            serviceMachine.next service (.applyTurnResult ambient request) := by
  rw [Handler.closeTurn, turnResult]
  rcases Handler.received deployment.servicer deployment.rpcError
    (deployment.environment around uploads) call turn with ⟨events, error⟩
  cases error with
  | some error => cases delivery <;> rfl
  | none => cases delivery <;> rfl

/-- Every RPC of a run comes from an input. -/
theorem mem_rpcs {platform : Platform κ} {inputs : List (PlatformInput κ)}
    {request : ServiceRequest} (member : request ∈ deployment.rpcs platform inputs) :
    ∃ input ∈ inputs, Sends input request := by
  rcases List.mem_filterMap.mp member with ⟨happened, traced, sent⟩
  rcases (Machine.mem_trace _).mp traced with ⟨earlier, input, later, rfl, rfl⟩
  exact ⟨input, by simp, deployment.sends_of_rpc sent⟩

/-- A request reaches the sessions through its RPC and not otherwise. -/
theorem engine_next (platform : Platform κ) (input : PlatformInput κ) :
    (deployment.machine.next platform input).engine =
      (deployment.rpc platform input).elim platform.engine
        (serviceMachine.next platform.engine) := by
  cases input with
  | getSession sessionId workspaceId => rfl
  | uploadDocument pipeline createFault sessionId form => rfl
  | ingest task => rfl
  | openTurn key sessionId body =>
      simp only [Machine.next, machine, rpc]
      split <;> rfl
  | createSession ambient body =>
      cases body with
      | none => rfl
      | some request =>
          simp only [Machine.next, machine, Handler.createSession, rpc]
          split
          next => rfl
          next =>
            simp only [Option.elim_some, Machine.next, serviceMachine]
            rcases platform.engine.createSession ambient
              { workspaceId := request.workspaceId, projectId := request.projectId } with
              ⟨service, result⟩
            cases result <;> rfl
  | closeTurn key environment call delivery ambient =>
      simp only [Machine.next, machine]
      cases opened : platform.turns key with
      | none => cases delivery <;> simp [rpc, opened]
      | some turn =>
          dsimp only
          rw [fst_closeTurn]
          cases delivery with
          | lost => rfl
          | unanswered | answered =>
              simp only [rpc, opened, Option.bind_some]
              cases deployment.turnResult environment call turn platform.uploads <;> rfl
  | requestTransition sessionId body =>
      cases body with
      | none => rfl
      | some request =>
          simp only [Machine.next, machine, Handler.requestTransition, rpc]
          split
          next => rfl
          next =>
            simp only [Option.elim_some, Machine.next, serviceMachine]
            rcases platform.engine.requestTransition
              { sessionId := sessionId, targetPhase := request.targetPhase } with ⟨service, result⟩
            cases result <;> rfl
  | revisitPhase ambient sessionId body =>
      cases body with
      | none => rfl
      | some request =>
          simp only [Machine.next, machine, Handler.revisitPhase, rpc]
          split
          next => rfl
          next =>
            simp only [Option.elim_some, Machine.next, serviceMachine]
            rcases platform.engine.revisitPhase ambient
              { sessionId := sessionId, targetPhase := request.targetPhase } with ⟨service, result⟩
            cases result <;> rfl

/-- However requests and halves of turns interleave, the sessions have gone through a run
of RPCs. -/
theorem engine_run (platform : Platform κ) (inputs : List (PlatformInput κ)) :
    (deployment.machine.run platform inputs).engine =
      serviceMachine.run platform.engine (deployment.rpcs platform inputs) := by
  induction inputs generalizing platform with
  | nil => rfl
  | cons input inputs ih =>
      rw [Machine.run_cons, ih, rpcs_cons, engine_next]
      cases deployment.rpc platform input <;> rfl

end Deployment

end Chitragupt
