import Chitragupt.StateMachine.Runs

/-!
# Refused and granted requests

A request is refused by an error status or by a response that says no.  Such a request
leaves the map of sessions as it is.  A granted one changes at most the session that it names
or creates; an approved transition changes only the phase of that session, to the next
phase, and cannot be repeated.
-/

namespace Chitragupt

open Machines (Machine Store)
open StateEngineService

/-- The reply is an error status, or a response without approval. -/
def ServiceReply.refused : ServiceReply → Bool
  | .createSession (.error _) | .getSessionState (.error _) | .applyTurnResult (.error _) => true
  | .requestTransition (.error _) | .revisitPhase (.error _) => true
  | .requestTransition (.ok response) => !response.approved
  | .revisitPhase (.ok response) => !response.ok
  | .createSession (.ok _) | .getSessionState (.ok _) | .applyTurnResult (.ok _) => false

section Refusals

variable [Runtime]

/-- The session that a request names, or the one it would create. -/
def ServiceRequest.subject : ServiceRequest → Option Uuid
  | .createSession ambient _ => some (ambient.newV4 0)
  | .getSessionState request => Runtime.parse request.sessionId
  | .applyTurnResult _ request => Runtime.parse request.sessionId
  | .requestTransition request => Runtime.parse request.sessionId
  | .revisitPhase _ request => Runtime.parse request.sessionId

/-- A request changes nothing when it is refused, and no other session when it is granted.
An approval moves its session to the next phase, once. -/
structure Contained (service : StateEngineService) (request : ServiceRequest) : Prop where
  refused : (serviceMachine.reply service request).refused = true →
    (serviceMachine.next service request).sessions = service.sessions
  granted : ∀ id, request.subject ≠ some id →
    (serviceMachine.next service request).sessions id = service.sessions id
  approved : (serviceMachine.reply service request).approved = true →
    ∃ id state target, request.subject = some id ∧ service.sessions id = some state ∧
      target.position = state.currentPhase.position + 1 ∧
      (serviceMachine.next service request).sessions =
        service.sessions.insert id { state with currentPhase := target } ∧
      (serviceMachine.reply (serviceMachine.next service request) request).refused = true

/-! ## Refused requests -/

omit [Runtime] in
theorem transitionTo_refused {target : SessionPhase} {state : SessionState}
    (refused : (transitionTo target state).2.approved = false) :
    (transitionTo target state).1 = state := by
  rw [transitionTo] at refused ⊢
  cases attempted : TransitionEngine.attempt state target with
  | ok granted =>
      rw [attempted] at refused
      cases refused
  | error error => rfl

omit [Runtime] in
theorem revisitTo_refused {now : Nat → DateTime} {target : SessionPhase} {state : SessionState}
    (refused : (revisitTo now target state).2.ok = false) :
    (revisitTo now target state).1 = state := by
  rw [revisitTo] at refused ⊢
  cases attempted : TransitionEngine.revisit now state target with
  | ok moved =>
      rw [attempted] at refused
      cases refused
  | error error => rfl

/-- A refused request leaves the map as it is, whichever RPC it is. -/
theorem sessions_of_refused {service : StateEngineService} {request : ServiceRequest}
    (refused : (serviceMachine.reply service request).refused = true) :
    (serviceMachine.next service request).sessions = service.sessions := by
  cases request with
  | createSession ambient request =>
      simp only [Machine.reply, Machine.next, serviceMachine, createSession] at refused ⊢
      cases workspace : parseUuid request.workspaceId "workspace_id" with
      | error status => rfl
      | ok workspaceId =>
          cases project : parseUuid request.projectId "project_id" with
          | error status => rfl
          | ok projectId =>
              rw [workspace, project] at refused
              cases refused
  | getSessionState request => rfl
  | applyTurnResult ambient request =>
      simp only [Machine.reply, Machine.next, serviceMachine, applyTurnResult] at refused ⊢
      cases named : parseUuid request.sessionId "session_id" with
      | error status => rfl
      | ok id =>
          cases present : service.sessions id with
          | none => simp only [present]
          | some state =>
              simp only [named, present] at refused
              cases refused
  | requestTransition request =>
      simp only [Machine.reply, Machine.next, serviceMachine, requestTransition] at refused ⊢
      cases named : parseUuid request.sessionId "session_id" with
      | error status => rfl
      | ok id =>
          cases parsed : parsePhase request.targetPhase with
          | error status => rfl
          | ok target =>
              cases present : service.sessions id with
              | none => simp only [present]
              | some state =>
                  simp only [named, parsed, present, ServiceReply.refused,
                    Bool.not_eq_true'] at refused
                  simp only [present, transitionTo_refused refused]
                  exact Store.insert_eq_self present
  | revisitPhase ambient request =>
      simp only [Machine.reply, Machine.next, serviceMachine, revisitPhase] at refused ⊢
      cases named : parseUuid request.sessionId "session_id" with
      | error status => rfl
      | ok id =>
          cases parsed : parsePhase request.targetPhase with
          | error status => rfl
          | ok target =>
              cases present : service.sessions id with
              | none => simp only [present]
              | some state =>
                  simp only [named, parsed, present, ServiceReply.refused,
                    Bool.not_eq_true'] at refused
                  simp only [present, revisitTo_refused refused]
                  exact Store.insert_eq_self present

/-! ## Granted requests -/

theorem parse_of_keyOf_addressed {sessionId : String} {request : SessionRequest} {id : Uuid}
    (about : Store.keyOf (addressed sessionId request) = some id) :
    Runtime.parse sessionId = some id := by
  rw [addressed] at about
  split at about
  next other named =>
    rw [named]
    exact about
  next => cases about

/-- The command of a request is about its subject, if about any session. -/
theorem keyOf_command {request : ServiceRequest} {id : Uuid}
    (about : Store.keyOf request.command = some id) : request.subject = some id := by
  cases request with
  | createSession ambient request =>
      simp only [ServiceRequest.command] at about
      split at about
      · exact about
      · cases about
  | getSessionState request => cases about
  | applyTurnResult ambient request => exact parse_of_keyOf_addressed about
  | requestTransition request => exact parse_of_keyOf_addressed about
  | revisitPhase ambient request => exact parse_of_keyOf_addressed about

/-- No request changes a session that it is not about. -/
theorem sessions_of_subject_ne {service : StateEngineService} {request : ServiceRequest}
    {id : Uuid} (other : request.subject ≠ some id) :
    (serviceMachine.next service request).sessions id = service.sessions id := by
  rw [serviceMachine_refines]
  apply Store.perform_of_keyOf_ne
  exact fun about => other (keyOf_command about)

/-! ## Approved transitions -/

omit [Runtime] in
/-- A phase has no edge to itself. -/
theorem attempt_current_ne_ok (state : SessionState) :
    TransitionEngine.attempt state state.currentPhase ≠ .ok () := by
  intro granted
  have edge := (TransitionEngine.attempt_eq_ok.mp granted).1
  have next := SessionPhase.position_of_mem_validTransitions edge
  omega

/-- What an approval does to the map, and that the same request is then refused. -/
theorem exists_of_approved {service : StateEngineService} {request : ServiceRequest}
    (approved : (serviceMachine.reply service request).approved = true) :
    ∃ id state target, request.subject = some id ∧ service.sessions id = some state ∧
      target.position = state.currentPhase.position + 1 ∧
      (serviceMachine.next service request).sessions =
        service.sessions.insert id { state with currentPhase := target } ∧
      (serviceMachine.reply (serviceMachine.next service request) request).refused = true := by
  rcases approved_iff.mp approved with ⟨transition, id, state, rfl, named, present, accepted⟩
  have step := sessionMachine_step state (.requestTransition transition)
  have moved : (serviceMachine.next service (.requestTransition transition)).sessions =
      service.sessions.insert id (sessionMachine.next state (.requestTransition transition)) := by
    rw [serviceMachine_refines, ServiceRequest.command, addressed, named]
    exact Store.perform_send_some present
  generalize sessionMachine.next state (.requestTransition transition) = after at step moved
  generalize sessionMachine.reply state (.requestTransition transition) = reply at step accepted
  cases step with
  | block _ _ _ denied _ => simp [denied] at accepted
  | approve _ target _ parsed attempted _ _ =>
      have edge := (TransitionEngine.attempt_eq_ok.mp attempted).1
      refine ⟨id, state, target, named, present,
        SessionPhase.position_of_mem_validTransitions edge, moved, ?_⟩
      generalize serviceMachine.next service (.requestTransition transition) = later at moved ⊢
      have here : later.sessions id = some { state with currentPhase := target } := by
        rw [moved, Store.insert_self]
      simp only [Machine.reply, serviceMachine, requestTransition, parseUuid, named, parsed, here,
        transitionTo]
      cases again : TransitionEngine.attempt { state with currentPhase := target } target with
      | ok granted => exact absurd again (attempt_current_ne_ok { state with currentPhase := target })
      | error error => rfl

/-- Every request in every service is contained. -/
theorem contained (service : StateEngineService) (request : ServiceRequest) :
    Contained service request where
  refused := sessions_of_refused
  granted _ := sessions_of_subject_ne
  approved := exists_of_approved

end Refusals

end Chitragupt
