import Chitragupt.StateMachine.Service

/-!
# Runs of the state engine

Two machines describe the same service.  The session machine serves the mutating
requests addressed to one session.  The service machine serves all five RPCs on the
session map.  The refinement theorem states that a step of the service is a command
on a store of independent session machines: it creates one session, steps one
session, or changes nothing.
-/

namespace Chitragupt

open Machines (Machine Event Store Command)

/-! ## The machine of one session -/

/-- A mutating request, already addressed to a session. -/
inductive SessionRequest where
  | applyTurnResult (ambient : Ambient) (request : TurnResultRequest)
  | requestTransition (request : TransitionRequest)
  | revisitPhase (ambient : Ambient) (request : RevisitRequest)

inductive SessionReply where
  | applyTurnResult (response : TurnResultResponse)
  | requestTransition (result : Except Status TransitionResponse)
  | revisitPhase (result : Except Status RevisitResponse)

namespace SessionReply

/-- The reply approves a forward transition. -/
def approved : SessionReply → Bool
  | .requestTransition (.ok response) => response.approved
  | _ => false

/-- The reply confirms a revisit. -/
def revisited : SessionReply → Bool
  | .revisitPhase (.ok response) => response.ok
  | _ => false

end SessionReply

section Session

variable [Runtime]

open StateEngineService

/-- The session machine: what each RPC does to the session it finds. -/
def sessionMachine : Machine SessionState SessionRequest SessionReply where
  step state
    | .applyTurnResult ambient request =>
        let after := turnResult ambient request state
        (after, .applyTurnResult (turnResultResponse after))
    | .requestTransition request =>
        match parsePhase request.targetPhase with
        | .error status => (state, .requestTransition (.error status))
        | .ok target =>
            let (after, response) := transitionTo target state
            (after, .requestTransition (.ok response))
    | .revisitPhase ambient request =>
        match parsePhase request.targetPhase with
        | .error status => (state, .revisitPhase (.error status))
        | .ok target =>
            let (after, response) := revisitTo ambient.now target state
            (after, .revisitPhase (.ok response))

/-- An event of one session. -/
abbrev SessionEvent := Event SessionState SessionRequest SessionReply

/-- What a step can do, and which replies go with it. -/
inductive SessionStep (state : SessionState) :
    SessionRequest → SessionState → SessionReply → Prop where
  | turn (ambient : Ambient) (request : TurnResultRequest) (reply : SessionReply) :
      reply.approved = false → reply.revisited = false →
      SessionStep state (.applyTurnResult ambient request)
        (turnResult ambient request state) reply
  | approve (request : TransitionRequest) (target : SessionPhase) (reply : SessionReply) :
      parsePhase request.targetPhase = .ok target →
      TransitionEngine.attempt state target = .ok () →
      reply.approved = true → reply.revisited = false →
      SessionStep state (.requestTransition request)
        { state with currentPhase := target } reply
  | block (request : TransitionRequest) (reply : SessionReply) :
      (∀ target, parsePhase request.targetPhase = .ok target →
        TransitionEngine.attempt state target ≠ .ok ()) →
      reply.approved = false → reply.revisited = false →
      SessionStep state (.requestTransition request) state reply
  | revisit (ambient : Ambient) (request : RevisitRequest) (target : SessionPhase)
      (after : SessionState) (reply : SessionReply) :
      parsePhase request.targetPhase = .ok target →
      TransitionEngine.revisit ambient.now state target = .ok after →
      reply.approved = false → reply.revisited = true →
      SessionStep state (.revisitPhase ambient request) after reply
  | refuse (ambient : Ambient) (request : RevisitRequest) (reply : SessionReply) :
      (∀ target, parsePhase request.targetPhase = .ok target →
        ∀ after, TransitionEngine.revisit ambient.now state target ≠ .ok after) →
      reply.approved = false → reply.revisited = false →
      SessionStep state (.revisitPhase ambient request) state reply

/-- Every step of the session machine is one of the five kinds. -/
theorem sessionMachine_step (state : SessionState) (request : SessionRequest) :
    SessionStep state request (sessionMachine.next state request)
      (sessionMachine.reply state request) := by
  cases request with
  | applyTurnResult ambient request => exact .turn ambient request _ rfl rfl
  | requestTransition request =>
      simp only [Machine.next, Machine.reply, sessionMachine]
      cases parsed : parsePhase request.targetPhase with
      | error status =>
          refine .block request _ (fun target same => ?_) rfl rfl
          rw [parsed] at same
          cases same
      | ok target =>
          cases attempted : TransitionEngine.attempt state target with
          | error error =>
              simp only [transitionTo, attempted]
              refine .block request _ (fun other same => ?_) rfl rfl
              rw [parsed, Except.ok.injEq] at same
              rw [← same, attempted]
              nofun
          | ok _ =>
              simp only [transitionTo, attempted]
              exact .approve request target _ parsed attempted rfl rfl
  | revisitPhase ambient request =>
      simp only [Machine.next, Machine.reply, sessionMachine]
      cases parsed : parsePhase request.targetPhase with
      | error status =>
          refine .refuse ambient request _ (fun target same => ?_) rfl rfl
          rw [parsed] at same
          cases same
      | ok target =>
          cases attempted : TransitionEngine.revisit ambient.now state target with
          | error error =>
              simp only [revisitTo, attempted]
              refine .refuse ambient request _ (fun other same after => ?_) rfl rfl
              rw [parsed, Except.ok.injEq] at same
              rw [← same, attempted]
              nofun
          | ok after =>
              simp only [revisitTo, attempted]
              exact .revisit ambient request target after _ parsed attempted rfl rfl

/-- No request writes a field behind a hard gate. -/
theorem sessionMachine_fixes_gateFields :
    sessionMachine.Fixes GateManager.gateFields := by
  intro state request
  have step := sessionMachine_step state request
  generalize sessionMachine.next state request = after at step ⊢
  cases step with
  | turn ambient request reply _ _ => exact gateFields_turnResult ambient request state
  | approve request target reply _ _ _ _ => rfl
  | block request reply _ _ _ => rfl
  | refuse ambient request reply _ _ _ => rfl
  | revisit ambient request target _ reply _ attempted _ _ =>
      rcases TransitionEngine.revisit_eq_ok.mp attempted with ⟨_, _, rfl⟩
      rfl

/-- An approved transition comes from a session without open hard gates. -/
theorem openHardGates_of_approved {state : SessionState} {request : SessionRequest}
    (approved : (sessionMachine.reply state request).approved = true) :
    GateManager.openHardGates state = [] := by
  have step := sessionMachine_step state request
  generalize sessionMachine.next state request = after at step
  generalize sessionMachine.reply state request = reply at step approved
  cases step with
  | approve request target _ _ attempted _ _ =>
      exact (TransitionEngine.attempt_eq_ok.mp attempted).2.1
  | turn _ _ _ denied _ => simp [denied] at approved
  | block _ _ _ denied _ => simp [denied] at approved
  | refuse _ _ _ _ denied _ => simp [denied] at approved
  | revisit _ _ _ _ _ _ _ denied _ => simp [denied] at approved

end Session

/-! ## The machine of the whole service -/

/-- One RPC, with what the environment supplies while it is served. -/
inductive ServiceRequest where
  | createSession (ambient : Ambient) (request : CreateSessionRequest)
  | getSessionState (request : SessionQuery)
  | applyTurnResult (ambient : Ambient) (request : TurnResultRequest)
  | requestTransition (request : TransitionRequest)
  | revisitPhase (ambient : Ambient) (request : RevisitRequest)

inductive ServiceReply where
  | createSession (result : Except Status CreateSessionResponse)
  | getSessionState (result : Except Status SessionStateProto)
  | applyTurnResult (result : Except Status TurnResultResponse)
  | requestTransition (result : Except Status TransitionResponse)
  | revisitPhase (result : Except Status RevisitResponse)

/-- The reply approves a forward transition. -/
def ServiceReply.approved : ServiceReply → Bool
  | .requestTransition (.ok response) => response.approved
  | _ => false

section Service

variable [Runtime]

open StateEngineService

/-- The service machine: the five RPCs. -/
def serviceMachine : Machine StateEngineService ServiceRequest ServiceReply where
  step service
    | .createSession ambient request =>
        let (after, result) := service.createSession ambient request
        (after, .createSession result)
    | .getSessionState request =>
        (service, .getSessionState (service.getSessionState request))
    | .applyTurnResult ambient request =>
        let (after, result) := service.applyTurnResult ambient request
        (after, .applyTurnResult result)
    | .requestTransition request =>
        let (after, result) := service.requestTransition request
        (after, .requestTransition result)
    | .revisitPhase ambient request =>
        let (after, result) := service.revisitPhase ambient request
        (after, .revisitPhase result)

/-- An event of the service. -/
abbrev ServiceEvent := Event StateEngineService ServiceRequest ServiceReply

/-- Send a request to the session that a text names. -/
def addressed (sessionId : String) (request : SessionRequest) :
    Command Uuid SessionState SessionRequest :=
  match Runtime.parse sessionId with
  | some id => .send id request
  | none => .skip

/-- The effect of an RPC as a command on the store of sessions. -/
def ServiceRequest.command : ServiceRequest → Command Uuid SessionState SessionRequest
  | .createSession ambient request =>
      match Runtime.parse request.workspaceId, Runtime.parse request.projectId with
      | some workspaceId, some projectId =>
          .create (ambient.newV4 0)
            (.new (ambient.newV4 0) (ambient.now 0) workspaceId projectId)
      | _, _ => .skip
  | .getSessionState _ => .skip
  | .applyTurnResult ambient request =>
      addressed request.sessionId (.applyTurnResult ambient request)
  | .requestTransition request => addressed request.sessionId (.requestTransition request)
  | .revisitPhase ambient request =>
      addressed request.sessionId (.revisitPhase ambient request)

/-- Sending a request without effect leaves the store as it is. -/
private theorem perform_send_idle {sessions : Store Uuid SessionState} {id : Uuid}
    {request : SessionRequest}
    (idle : ∀ state, sessions id = some state → sessionMachine.next state request = state) :
    sessions.perform sessionMachine (.send id request) = sessions := by
  cases present : sessions id with
  | none => exact Store.perform_send_none present
  | some state =>
      rw [Store.perform_send_some present, idle state present,
        Store.insert_eq_self present]

/-- The service refines the store of session machines. -/
theorem serviceMachine_refines (service : StateEngineService) (request : ServiceRequest) :
    (serviceMachine.next service request).sessions =
      service.sessions.perform sessionMachine request.command := by
  cases request with
  | getSessionState request => rfl
  | createSession ambient request =>
      simp only [Machine.next, serviceMachine, createSession, ServiceRequest.command,
        parseUuid]
      cases Runtime.parse request.workspaceId with
      | none => rfl
      | some workspaceId => cases Runtime.parse request.projectId <;> rfl
  | applyTurnResult ambient request =>
      simp only [Machine.next, serviceMachine, applyTurnResult, ServiceRequest.command,
        parseUuid, addressed]
      cases Runtime.parse request.sessionId with
      | none => rfl
      | some id =>
          cases present : service.sessions id with
          | none => simp only [present, Store.perform_send_none present]
          | some state =>
              simp only [present, Store.perform_send_some present]
              rfl
  | requestTransition request =>
      simp only [Machine.next, serviceMachine, requestTransition, ServiceRequest.command,
        parseUuid, addressed]
      cases Runtime.parse request.sessionId with
      | none => rfl
      | some id =>
          cases parsed : parsePhase request.targetPhase with
          | error status =>
              refine (perform_send_idle fun state _ => ?_).symm
              simp only [Machine.next, sessionMachine, parsed]
          | ok target =>
              cases present : service.sessions id with
              | none => simp only [present, Store.perform_send_none present]
              | some state =>
                  simp only [present, Store.perform_send_some present, Machine.next,
                    sessionMachine, parsed]
  | revisitPhase ambient request =>
      simp only [Machine.next, serviceMachine, revisitPhase, ServiceRequest.command,
        parseUuid, addressed]
      cases Runtime.parse request.sessionId with
      | none => rfl
      | some id =>
          cases parsed : parsePhase request.targetPhase with
          | error status =>
              refine (perform_send_idle fun state _ => ?_).symm
              simp only [Machine.next, sessionMachine, parsed]
          | ok target =>
              cases present : service.sessions id with
              | none => simp only [present, Store.perform_send_none present]
              | some state =>
                  simp only [present, Store.perform_send_some present, Machine.next,
                    sessionMachine, parsed]

/-- An approval by the service is an approval by the session it addresses. -/
theorem approved_iff {service : StateEngineService} {request : ServiceRequest} :
    (serviceMachine.reply service request).approved = true ↔
      ∃ transition id state, request = .requestTransition transition ∧
        Runtime.parse transition.sessionId = some id ∧
        service.sessions id = some state ∧
        (sessionMachine.reply state (.requestTransition transition)).approved = true := by
  constructor
  · intro approved
    cases request with
    | createSession _ _ | getSessionState _ | applyTurnResult _ _ | revisitPhase _ _ =>
        simp [Machine.reply, serviceMachine, ServiceReply.approved] at approved
    | requestTransition transition =>
        simp only [Machine.reply, serviceMachine, requestTransition, parseUuid] at approved
        cases named : Runtime.parse transition.sessionId with
        | none => simp [named, ServiceReply.approved] at approved
        | some id =>
            simp only [named] at approved
            cases parsed : parsePhase transition.targetPhase with
            | error status => simp [parsed, ServiceReply.approved] at approved
            | ok target =>
                simp only [parsed] at approved
                cases present : service.sessions id with
                | none => simp [present, ServiceReply.approved] at approved
                | some state =>
                    refine ⟨transition, id, state, rfl, named, present, ?_⟩
                    simp only [Machine.reply, sessionMachine, parsed]
                    simpa [present, ServiceReply.approved, SessionReply.approved] using approved
  · rintro ⟨transition, id, state, rfl, named, present, approved⟩
    simp only [Machine.reply, sessionMachine] at approved
    cases parsed : parsePhase transition.targetPhase with
    | error status => simp [parsed, SessionReply.approved] at approved
    | ok target =>
        simp only [parsed, SessionReply.approved] at approved
        simpa [Machine.reply, serviceMachine, requestTransition, parseUuid, named, parsed,
          present, ServiceReply.approved] using approved

/-! ### Properties of all sessions -/

/-- Sessions are created by one RPC only, and new. -/
theorem ServiceRequest.eq_new_of_command {request : ServiceRequest} {id : Uuid}
    {state : SessionState} (created : request.command = .create id state) :
    ∃ ambient creation workspaceId projectId, request = .createSession ambient creation ∧
      state = .new id (ambient.now 0) workspaceId projectId := by
  cases request with
  | createSession ambient creation =>
      simp only [command] at created
      split at created
      next workspaceId projectId _ _ =>
        rcases Command.create.inj created with ⟨rfl, rfl⟩
        exact ⟨ambient, creation, workspaceId, projectId, rfl, rfl⟩
      next => cases created
  | getSessionState _ => cases created
  | applyTurnResult _ _ | requestTransition _ | revisitPhase _ _ =>
      simp only [command, addressed] at created
      split at created <;> cases created

/-- What fresh sessions have and every step of a session keeps, every RPC keeps. -/
theorem serviceMachine_stable_all {property : SessionState → Prop}
    (fresh : ∀ id now workspaceId projectId, property (.new id now workspaceId projectId))
    (kept : ∀ state request, property state → property (sessionMachine.next state request)) :
    serviceMachine.Stable (fun _ _ => True) fun service => service.sessions.All property := by
  intro service request _ all
  rw [serviceMachine_refines]
  refine all.perform ?_ fun _ input state _ _ holds => kept state input holds
  intro id state created
  rcases ServiceRequest.eq_new_of_command created with ⟨_, _, _, _, _, rfl⟩
  exact fresh _ _ _ _

/-- Hence every session of every run has it. -/
theorem all_of_run {property : SessionState → Prop}
    (fresh : ∀ id now workspaceId projectId, property (.new id now workspaceId projectId))
    (kept : ∀ state request, property state → property (sessionMachine.next state request))
    (requests : List ServiceRequest) :
    (serviceMachine.run .new requests).sessions.All property :=
  (serviceMachine_stable_all fresh kept).run (fun _ _ => trivial) (Store.all_empty property)

end Service

end Chitragupt
