import Chitragupt.Gateway.TurnAccounting
import Chitragupt.Lib.Purge
import Chitragupt.StateMachine.Refusals
import Chitragupt.StateMachine.Tenancy

/-!
# Conversations side by side

The platform serves many sessions at once.  For the conversations of some of them, and for
the uploads, everything that happens in the other sessions can be left out.
-/

namespace Chitragupt

open Python (PyError)
open Machines (Machine Store)

/-! ## The engine -/

/-- Two engines hold the same sessions of a group. -/
def StateEngineService.SameFor (mine : Uuid → Bool) (service other : StateEngineService) : Prop :=
  ∀ id, mine id = true → service.sessions id = other.sessions id

section Engine

variable [Runtime] {mine : Uuid → Bool} {service other : StateEngineService}
  {request : ServiceRequest}

omit [Runtime] in
theorem ServiceRequest.subject_of_session [Runtime] {id : Uuid}
    (about : request.session = some id) : request.subject = some id := by
  cases request with
  | createSession ambient request => cases about
  | getSessionState request => exact about
  | applyTurnResult ambient request => exact about
  | requestTransition request =>
      rw [session] at about
      split at about
      next => exact about
      next => cases about
  | revisitPhase ambient request =>
      rw [session] at about
      split at about
      next => exact about
      next => cases about

/-- A request about the group is answered from the sessions of the group. -/
theorem reply_congr (same : service.SameFor mine other)
    (concerned : request.subject.all mine = true) :
    serviceMachine.reply service request = serviceMachine.reply other request := by
  cases about : request.session with
  | none => exact reply_of_sessionless about service other
  | some id =>
      rcases exists_answer about with ⟨answer, answered, _⟩
      rw [ServiceRequest.subject_of_session about] at concerned
      rw [answered, answered, same id concerned]

/-- The same request keeps the engines alike. -/
theorem sameFor_next (same : service.SameFor mine other) (request : ServiceRequest) :
    (serviceMachine.next service request).SameFor mine (serviceMachine.next other request) := by
  intro id member
  rw [serviceMachine_refines, serviceMachine_refines]
  exact Store.perform_congr sessionMachine (same id member) request.command

/-- A request about another session keeps them alike, too. -/
theorem sameFor_next_left (same : service.SameFor mine other)
    (foreign : request.subject.all mine = false) :
    (serviceMachine.next service request).SameFor mine other := by
  intro id member
  rw [sessions_of_subject_ne, same id member]
  intro about
  rw [about, Option.all_some, member] at foreign
  cases foreign

end Engine

/-! ## Who an input is about -/

section Inputs

variable {κ : Type*} [Runtime] (mine : Uuid → Bool) (owner : κ → String)

/-- The session that an input is about.  The key of a turn tells its session. -/
def PlatformInput.subject : PlatformInput κ → Option Uuid
  | .createSession ambient _ => some (ambient.newV4 0)
  | .getSession sessionId _ => Runtime.parse sessionId
  | .openTurn key _ _ => Runtime.parse (owner key)
  | .closeTurn key _ _ _ _ => Runtime.parse (owner key)
  | .requestTransition sessionId _ => Runtime.parse sessionId
  | .revisitPhase _ sessionId _ => Runtime.parse sessionId
  | .uploadDocument _ _ _ _ => none
  | .ingest _ => none

/-- The input is not about a session outside the group. -/
def PlatformInput.concerns (input : PlatformInput κ) : Bool := (input.subject owner).all mine

omit [Runtime] in
/-- A turn is opened in the session of its key. -/
def PlatformInput.Owned : PlatformInput κ → Prop
  | .openTurn key sessionId _ => sessionId = owner key
  | _ => True

end Inputs

/-! ## One step -/

namespace Handler

variable [Runtime] {service other : StateEngineService}

theorem sessionId_of_openTurn {sessionId : String} {body : Option TurnReq} {turn : OpenTurn}
    (opened : openTurn sessionId body service = .ok turn) : turn.sessionId = sessionId := by
  cases body with
  | none => cases opened
  | some request =>
      rw [openTurn] at opened
      split at opened
      next => cases opened
      next =>
        split at opened
        next => cases opened
        next => exact congrArg OpenTurn.sessionId (Except.ok.inj opened).symm

/-- A session that is found alike is opened alike. -/
theorem openTurn_congr {sessionId : String} (body : Option TurnReq)
    (same : ∀ workspaceId,
      serviceMachine.reply service (.getSessionState { sessionId, workspaceId }) =
        serviceMachine.reply other (.getSessionState { sessionId, workspaceId })) :
    openTurn sessionId body service = openTurn sessionId body other := by
  cases body with
  | none => rfl
  | some request =>
      have found := ServiceReply.getSessionState.inj (same request.workspaceId)
      rw [openTurn, openTurn, found]

theorem snd_createSession_congr (ambient : Ambient) (body : Option CreateSessionReq)
    (same : ∀ request, serviceMachine.reply service (.createSession ambient request) =
      serviceMachine.reply other (.createSession ambient request)) :
    (createSession service ambient body).2 = (createSession other ambient body).2 := by
  cases body with
  | none => rfl
  | some request =>
      rw [createSession, createSession]
      split
      next => rfl
      next =>
        have sent : (service.createSession ambient ⟨request.workspaceId, request.projectId⟩).2 =
            (other.createSession ambient ⟨request.workspaceId, request.projectId⟩).2 :=
          ServiceReply.createSession.inj (same _)
        generalize service.createSession ambient _ = answer at sent ⊢
        generalize other.createSession ambient _ = answerToo at sent ⊢
        rcases answer with ⟨after, result⟩
        rcases answerToo with ⟨afterToo, resultToo⟩
        rcases sent with rfl
        cases result <;> rfl

theorem snd_requestTransition_congr (sessionId : String) (body : Option TransitionReq)
    (same : ∀ targetPhase,
      serviceMachine.reply service (.requestTransition { sessionId, targetPhase }) =
        serviceMachine.reply other (.requestTransition { sessionId, targetPhase })) :
    (requestTransition service sessionId body).2 = (requestTransition other sessionId body).2 := by
  cases body with
  | none => rfl
  | some request =>
      rw [requestTransition, requestTransition]
      split
      next => rfl
      next =>
        have sent : (service.requestTransition ⟨sessionId, request.targetPhase⟩).2 =
            (other.requestTransition ⟨sessionId, request.targetPhase⟩).2 :=
          ServiceReply.requestTransition.inj (same _)
        generalize service.requestTransition _ = answer at sent ⊢
        generalize other.requestTransition _ = answerToo at sent ⊢
        rcases answer with ⟨after, result⟩
        rcases answerToo with ⟨afterToo, resultToo⟩
        rcases sent with rfl
        cases result <;> rfl

theorem snd_revisitPhase_congr (ambient : Ambient) (sessionId : String)
    (body : Option RevisitReq)
    (same : ∀ targetPhase,
      serviceMachine.reply service (.revisitPhase ambient { sessionId, targetPhase }) =
        serviceMachine.reply other (.revisitPhase ambient { sessionId, targetPhase })) :
    (revisitPhase service ambient sessionId body).2 =
      (revisitPhase other ambient sessionId body).2 := by
  cases body with
  | none => rfl
  | some request =>
      rw [revisitPhase, revisitPhase]
      split
      next => rfl
      next =>
        have sent : (service.revisitPhase ambient ⟨sessionId, request.targetPhase⟩).2 =
            (other.revisitPhase ambient ⟨sessionId, request.targetPhase⟩).2 :=
          ServiceReply.revisitPhase.inj (same _)
        generalize service.revisitPhase ambient _ = answer at sent ⊢
        generalize other.revisitPhase ambient _ = answerToo at sent ⊢
        rcases answer with ⟨after, result⟩
        rcases answerToo with ⟨afterToo, resultToo⟩
        rcases sent with rfl
        cases result <;> rfl

/-- A turn that is applied alike is answered alike. -/
theorem snd_closeTurn_congr [Rendering] (servicer : AiOrchestrationServicer)
    (rpcError : PyError → String) (environment : Environment) (call : PipelineCall)
    (delivery : Delivery) (ambient : Ambient) (turn : OpenTurn)
    (same : ∀ complete, serviceMachine.reply service
        (.applyTurnResult ambient (turnResultRequest turn.sessionId complete)) =
      serviceMachine.reply other
        (.applyTurnResult ambient (turnResultRequest turn.sessionId complete))) :
    (closeTurn servicer rpcError environment call delivery ambient turn service).2 =
      (closeTurn servicer rpcError environment call delivery ambient turn other).2 := by
  rcases streamed : received servicer rpcError environment call turn with ⟨events, error⟩
  cases error with
  | some error => rw [closeTurn_of_error streamed, closeTurn_of_error streamed]
  | none =>
      rw [closeTurn_of_received streamed, closeTurn_of_received streamed]
      cases delivery with
      | lost | unanswered => rfl
      | answered =>
          have applied : (service.applyTurnResult ambient (turnResultRequest turn.sessionId
              (PipelineResult.collect events).complete)).2 =
                (other.applyTurnResult ambient (turnResultRequest turn.sessionId
                  (PipelineResult.collect events).complete)).2 :=
            ServiceReply.applyTurnResult.inj (same _)
          simp only [applyTurn]
          rw [applied]

end Handler

namespace Deployment

variable {κ : Type*} [DecidableEq κ] [Runtime] [Rendering] (deployment : Deployment)

/-- What a step does to the turns. -/
theorem turns_next_apply (platform : Platform κ) (input : PlatformInput κ) (key : κ) :
    (deployment.machine.next platform input).turns key =
      match input with
      | .openTurn other sessionId body =>
          if key = other then
            (platform.turns key).or (Handler.openTurn sessionId body platform.engine).toOption
          else platform.turns key
      | .closeTurn other _ _ _ _ => if key = other then none else platform.turns key
      | _ => platform.turns key := by
  cases input with
  | createSession _ _ | getSession _ _ | requestTransition _ _ | revisitPhase _ _ _
  | uploadDocument _ _ _ _ | ingest _ => rfl
  | openTurn other sessionId body =>
      simp only [Machine.next, machine]
      by_cases same : key = other
      · subst same
        rw [if_pos rfl]
        cases found : platform.turns key with
        | some turn => exact found
        | none =>
            cases Handler.openTurn sessionId body platform.engine with
            | error response => exact found
            | ok turn => exact Function.update_self _ _ _
      · rw [if_neg same]
        split <;> simp [Function.update_of_ne same]
  | closeTurn other _ _ _ _ =>
      simp only [Machine.next, machine]
      by_cases same : key = other
      · subst same
        rw [if_pos rfl]
        cases found : platform.turns key with
        | none => exact found
        | some turn => exact Function.update_self _ _ _
      · rw [if_neg same]
        split
        next => rfl
        next => exact Function.update_of_ne same _ _

/-- What a step does to the uploads. -/
theorem uploads_next (platform : Platform κ) (input : PlatformInput κ) :
    (deployment.machine.next platform input).uploads =
      match input with
      | .uploadDocument pipeline createFault sessionId form =>
          (Handler.uploadDocument deployment.ingest pipeline createFault sessionId form
            platform.uploads).1
      | .ingest task => deployment.ingest.machine.next platform.uploads (.move task)
      | _ => platform.uploads := by
  cases input with
  | createSession _ _ | getSession _ _ | requestTransition _ _ | revisitPhase _ _ _
  | uploadDocument _ _ _ _ | ingest _ => rfl
  | openTurn _ _ _ | closeTurn _ _ _ _ _ =>
      simp only [Machine.next, machine]
      split <;> rfl

omit [DecidableEq κ] in
/-- What a request sends is about the session that the request is about. -/
theorem subject_of_rpc {owner : κ → String} {platform : Platform κ} {input : PlatformInput κ}
    {request : ServiceRequest}
    (turns : ∀ key turn, platform.turns key = some turn → turn.sessionId = owner key)
    (sent : deployment.rpc platform input = some request) :
    request.subject = input.subject owner := by
  cases input with
  | openTurn _ _ _ | uploadDocument _ _ _ _ | ingest _ => cases sent
  | getSession sessionId workspaceId =>
      rcases Option.some.inj sent with rfl
      rfl
  | createSession ambient body =>
      cases body with
      | none => cases sent
      | some body =>
          rw [rpc] at sent
          split at sent
          next => cases sent
          next =>
            rcases Option.some.inj sent with rfl
            rfl
  | closeTurn key around call delivery ambient =>
      cases delivery with
      | lost => cases sent
      | unanswered | answered =>
          rw [rpc, Option.bind_eq_some_iff] at sent
          · rcases sent with ⟨turn, opened, result⟩
            rcases Option.map_eq_some_iff.mp result with ⟨request, built, rfl⟩
            rw [turnResult] at built
            split at built
            next => cases built
            next =>
              rcases Option.some.inj built with rfl
              exact congrArg Runtime.parse (turns key turn opened)
          · intro lost
            cases lost
  | requestTransition sessionId body =>
      cases body with
      | none => cases sent
      | some body =>
          rw [rpc] at sent
          split at sent
          next => cases sent
          next =>
            rcases Option.some.inj sent with rfl
            rfl
  | revisitPhase ambient sessionId body =>
      cases body with
      | none => cases sent
      | some body =>
          rw [rpc] at sent
          split at sent
          next => cases sent
          next =>
            rcases Option.some.inj sent with rfl
            rfl

end Deployment

/-! ## Runs side by side -/

section Isolation

variable {κ : Type*} [Runtime] (mine : Uuid → Bool) (owner : κ → String)

/-- The platforms are the same but for the sessions outside the group and their turns. -/
structure Platform.SameFor (first second : Platform κ) : Prop where
  engine : first.engine.SameFor mine second.engine
  uploads : first.uploads = second.uploads
  turns : ∀ key, (Runtime.parse (owner key)).all mine = true →
    first.turns key = second.turns key
  owned : ∀ key turn, first.turns key = some turn → turn.sessionId = owner key
  ownedToo : ∀ key turn, second.turns key = some turn → turn.sessionId = owner key

variable {mine owner} {first second : Platform κ} {input : PlatformInput κ}

/-- A session of the group is opened alike. -/
theorem openTurn_of_sameFor (same : first.SameFor mine owner second) {sessionId : String}
    (concerned : (Runtime.parse sessionId).all mine = true) (body : Option TurnReq) :
    Handler.openTurn sessionId body first.engine =
      Handler.openTurn sessionId body second.engine := by
  apply Handler.openTurn_congr body
  intro workspaceId
  exact reply_congr same.engine concerned

variable [DecidableEq κ] [Rendering] (deployment : Deployment)

/-- Turns stay in the sessions of their keys. -/
theorem owned_next {platform : Platform κ}
    (turns : ∀ key turn, platform.turns key = some turn → turn.sessionId = owner key)
    (owned : input.Owned owner) {key : κ} {turn : OpenTurn}
    (opened : (deployment.machine.next platform input).turns key = some turn) :
    turn.sessionId = owner key := by
  rcases deployment.turns_next opened with before | ⟨sessionId, body, rfl, loaded⟩
  · exact turns key turn before
  · exact (Handler.sessionId_of_openTurn loaded).trans owned

omit [DecidableEq κ] in
/-- A request about the group sends the same RPC on both sides. -/
theorem rpc_congr (same : first.SameFor mine owner second)
    (concerned : input.concerns mine owner = true) :
    deployment.rpc first input = deployment.rpc second input := by
  cases input with
  | createSession _ body | requestTransition _ body | revisitPhase _ _ body =>
      cases body <;> rfl
  | getSession _ _ | openTurn _ _ _ | uploadDocument _ _ _ _ | ingest _ => rfl
  | closeTurn key around call delivery ambient =>
      cases delivery with
      | lost => rfl
      | unanswered | answered =>
          simp only [Deployment.rpc, same.turns key concerned, same.uploads]

/-- A request about the group is answered alike. -/
theorem reply_of_sameFor (same : first.SameFor mine owner second) (owned : input.Owned owner)
    (concerned : input.concerns mine owner = true) :
    deployment.machine.reply first input = deployment.machine.reply second input := by
  cases input with
  | ingest task => rfl
  | uploadDocument pipeline createFault sessionId form =>
      simp only [Machine.reply, Deployment.machine, same.uploads]
  | getSession sessionId workspaceId =>
      have found := ServiceReply.getSessionState.inj (reply_congr same.engine
        (show (ServiceRequest.getSessionState { sessionId, workspaceId }).subject.all mine = true
          from concerned))
      simp only [Machine.reply, Deployment.machine, Handler.getSession]
      rw [found]
  | createSession ambient body =>
      have answered := Handler.snd_createSession_congr ambient body fun request =>
        reply_congr same.engine
          (show (ServiceRequest.createSession ambient request).subject.all mine = true
            from concerned)
      simp only [Machine.reply, Deployment.machine]
      rw [answered]
  | openTurn key sessionId body =>
      rcases owned with rfl
      simp only [Machine.reply, Deployment.machine]
      rw [same.turns key concerned, openTurn_of_sameFor same concerned body]
      split <;> rfl
  | closeTurn key around call delivery ambient =>
      simp only [Machine.reply, Deployment.machine]
      rw [same.turns key concerned, same.uploads]
      cases opened : second.turns key with
      | none => rfl
      | some turn =>
          have mineToo : (Runtime.parse turn.sessionId).all mine = true := by
            rw [same.ownedToo key turn opened]
            exact concerned
          have answered := Handler.snd_closeTurn_congr deployment.servicer deployment.rpcError
            (deployment.environment around second.uploads) call delivery ambient turn
            fun complete => reply_congr same.engine
              (show (ServiceRequest.applyTurnResult ambient
                (Handler.turnResultRequest turn.sessionId complete)).subject.all mine = true
                from mineToo)
          exact congrArg (fun response => some response.http) answered
  | requestTransition sessionId body =>
      have answered := Handler.snd_requestTransition_congr sessionId body fun targetPhase =>
        reply_congr same.engine
          (show (ServiceRequest.requestTransition { sessionId, targetPhase }).subject.all mine =
            true from concerned)
      simp only [Machine.reply, Deployment.machine]
      rw [answered]
  | revisitPhase ambient sessionId body =>
      have answered := Handler.snd_revisitPhase_congr ambient sessionId body fun targetPhase =>
        reply_congr same.engine
          (show (ServiceRequest.revisitPhase ambient
            { sessionId, targetPhase }).subject.all mine = true from concerned)
      simp only [Machine.reply, Deployment.machine]
      rw [answered]

/-- A request about the group keeps the platforms alike. -/
theorem sameFor_step (same : first.SameFor mine owner second) (owned : input.Owned owner)
    (concerned : input.concerns mine owner = true) :
    (deployment.machine.next first input).SameFor mine owner
      (deployment.machine.next second input) where
  engine := by
    rw [deployment.engine_next, deployment.engine_next, rpc_congr deployment same concerned]
    cases deployment.rpc second input with
    | none => exact same.engine
    | some request => exact sameFor_next same.engine request
  uploads := by rw [deployment.uploads_next, deployment.uploads_next, same.uploads]
  turns key ours := by
    rw [deployment.turns_next_apply, deployment.turns_next_apply, same.turns key ours]
    cases input with
    | createSession _ _ | getSession _ _ | requestTransition _ _ | revisitPhase _ _ _
    | uploadDocument _ _ _ _ | ingest _ | closeTurn _ _ _ _ _ => rfl
    | openTurn other sessionId body =>
        rcases owned with rfl
        dsimp only
        rw [openTurn_of_sameFor same concerned body]
  owned _ _ opened := owned_next deployment same.owned owned opened
  ownedToo _ _ opened := owned_next deployment same.ownedToo owned opened

/-- So does a request about another session that only one of them gets. -/
theorem sameFor_step_left (same : first.SameFor mine owner second) (owned : input.Owned owner)
    (foreign : input.concerns mine owner = false) :
    (deployment.machine.next first input).SameFor mine owner second where
  engine := by
    rw [deployment.engine_next]
    cases sent : deployment.rpc first input with
    | none => exact same.engine
    | some request =>
        apply sameFor_next_left same.engine
        rw [deployment.subject_of_rpc same.owned sent]
        exact foreign
  uploads := by
    rw [deployment.uploads_next, ← same.uploads]
    cases input with
    | uploadDocument _ _ _ _ | ingest _ => cases foreign
    | createSession _ _ | getSession _ _ | openTurn _ _ _ | closeTurn _ _ _ _ _
    | requestTransition _ _ | revisitPhase _ _ _ => rfl
  turns key ours := by
    rw [deployment.turns_next_apply, same.turns key ours]
    cases input with
    | createSession _ _ | getSession _ _ | requestTransition _ _ | revisitPhase _ _ _
    | uploadDocument _ _ _ _ | ingest _ => rfl
    | openTurn other _ _ | closeTurn other _ _ _ _ =>
        dsimp only
        rw [if_neg]
        rintro rfl
        exact absurd ours (Bool.eq_false_iff.mp foreign)
  owned _ _ opened := owned_next deployment same.owned owned opened
  ownedToo := same.ownedToo

/-- Sessions unwind: those of the group do not see the others. -/
theorem unwinds_sameFor :
    deployment.machine.Unwinds (PlatformInput.concerns mine owner) (PlatformInput.Owned owner)
      (Platform.SameFor mine owner) where
  answered _ _ _ same owned concerned := reply_of_sameFor deployment same owned concerned
  kept _ _ _ same owned concerned := sameFor_step deployment same owned concerned
  unmoved _ _ _ same owned foreign := sameFor_step_left deployment same owned foreign

/-- However the requests of all sessions interleave: to the conversations of some of them,
and to the uploads, it makes no difference when everything in the other sessions is left
out.  All answers are the same, and so are these sessions and the documents in the end. -/
theorem answers_without_others (uploads : Uploads) {inputs : List (PlatformInput κ)}
    (owned : ∀ input ∈ inputs, input.Owned owner) :
    deployment.machine.answers (PlatformInput.concerns mine owner) (.initial uploads) inputs =
        deployment.machine.answers (PlatformInput.concerns mine owner) (.initial uploads)
          (inputs.filter (PlatformInput.concerns mine owner)) ∧
      (deployment.machine.run (.initial uploads) inputs).engine.SameFor mine
        (deployment.machine.run (.initial uploads)
          (inputs.filter (PlatformInput.concerns mine owner))).engine ∧
      (deployment.machine.run (.initial uploads) inputs).uploads =
        (deployment.machine.run (.initial uploads)
          (inputs.filter (PlatformInput.concerns mine owner))).uploads := by
  have start : (Platform.initial uploads : Platform κ).SameFor mine owner (.initial uploads) :=
    { engine := fun _ _ => rfl
      uploads := rfl
      turns := fun _ _ => rfl
      owned := fun _ _ opened => by cases opened
      ownedToo := fun _ _ opened => by cases opened }
  rcases (unwinds_sameFor deployment).purge start owned with ⟨answers, after⟩
  exact ⟨answers, after.engine, after.uploads⟩

end Isolation

/-! ### Two conversations -/

section Sample

attribute [local instance] referenceRuntime referenceRendering

def sampleOtherId : String := "00000000-0000-0000-0000-0000000000b1"

def sampleOtherAmbient : Ambient where
  now _ := 1700000000000000000
  newV4 drawn := BitVec.ofNat 128 (0xB1 + drawn)

def sampleProject : CreateSessionReq where
  workspaceId := "00000000-0000-4000-8000-000000000001"
  projectId := "00000000-0000-4000-8000-000000000002"

def sampleOwner (key : Bool) : String := if key then sampleId else sampleOtherId

/-- Two sessions are created, and a turn is taken in each of them. -/
def sampleConversations : List (PlatformInput Bool) :=
  [.createSession sampleAmbient (some sampleProject),
    .createSession sampleOtherAmbient (some sampleProject),
    .openTurn true sampleId (some sampleTurn), .openTurn false sampleOtherId (some sampleTurn),
    sampleClosing false .answered, sampleClosing true .answered, .getSession sampleId ""]

/-- The first session is answered the same with and without the other one. -/
theorem answers_without_others_sampleConversations :
    sampleDeployment.machine.answers
        (PlatformInput.concerns (fun id => id == 0xA1) sampleOwner) (.initial .empty)
        sampleConversations =
      sampleDeployment.machine.answers
        (PlatformInput.concerns (fun id => id == 0xA1) sampleOwner) (.initial .empty)
        (sampleConversations.filter
          (PlatformInput.concerns (fun id => id == 0xA1) sampleOwner)) ∧
      (sampleConversations.filter
        (PlatformInput.concerns (fun id => id == 0xA1) sampleOwner)).length = 4 := by
  have owned : ∀ input ∈ sampleConversations, input.Owned sampleOwner := by
    simp [sampleConversations, sampleClosing, PlatformInput.Owned, sampleOwner]
  exact ⟨(answers_without_others sampleDeployment .empty owned).1, by decide +kernel⟩

end Sample

end Chitragupt
