import Chitragupt.Lib.Noninterference
import Chitragupt.StateMachine.Progress

/-!
# Sessions of other workspaces

No RPC looks at the workspace of the session that it finds, and `get_session_state` leaves
the workspace of its request aside.  Whoever names a session gets what is there, so a reply
depends on other workspaces unless the session is one of the own workspace.
-/

namespace Chitragupt

open Machines (Machine Store)
open StateEngineService

/-- The session is one of the workspace. -/
def OwnedBy (workspace : Uuid) (state : SessionState) : Prop := state.workspaceId = workspace

section Tenancy

variable [Runtime]

/-- The request is issued on behalf of the workspace, as far as it says so. -/
def ServiceRequest.IssuedFor (workspace : Uuid) : ServiceRequest → Prop
  | .createSession _ request => Runtime.parse request.workspaceId = some workspace
  | .getSessionState request => Runtime.parse request.workspaceId = some workspace
  | _ => True

/-- The session that a well-formed request is about. -/
def ServiceRequest.session : ServiceRequest → Option Uuid
  | .createSession _ _ => none
  | .getSessionState request => Runtime.parse request.sessionId
  | .applyTurnResult _ request => Runtime.parse request.sessionId
  | .requestTransition request =>
      match parsePhase request.targetPhase with
      | .ok _ => Runtime.parse request.sessionId
      | .error _ => none
  | .revisitPhase _ request =>
      match parsePhase request.targetPhase with
      | .ok _ => Runtime.parse request.sessionId
      | .error _ => none

/-- The reply is the same in every service with the same sessions of the workspace, and a
session is shown only to its own workspace. -/
structure Isolated (workspace : Uuid) (service : StateEngineService) (request : ServiceRequest) :
    Prop where
  agrees : ∀ other : StateEngineService,
    service.sessions.AgreeOn (OwnedBy workspace) other.sessions →
      serviceMachine.reply service request = serviceMachine.reply other request
  owned : ∀ query id state, request = .getSessionState query →
    Runtime.parse query.sessionId = some id → service.sessions id = some state →
      Runtime.parse query.workspaceId = some state.workspaceId

/-! ## What a reply depends on -/

/-- A request without a session is answered in the same way by every service. -/
theorem reply_of_sessionless {request : ServiceRequest} (sessionless : request.session = none)
    (service other : StateEngineService) :
    serviceMachine.reply service request = serviceMachine.reply other request := by
  cases request with
  | createSession ambient request =>
      simp only [Machine.reply, serviceMachine, createSession]
      cases parseUuid request.workspaceId "workspace_id" with
      | error status => rfl
      | ok workspaceId => cases parseUuid request.projectId "project_id" <;> rfl
  | getSessionState request =>
      rw [ServiceRequest.session] at sessionless
      simp only [Machine.reply, serviceMachine, getSessionState, parseUuid, sessionless]
  | applyTurnResult ambient request =>
      rw [ServiceRequest.session] at sessionless
      simp only [Machine.reply, serviceMachine, applyTurnResult, parseUuid, sessionless]
  | requestTransition request =>
      rw [ServiceRequest.session] at sessionless
      simp only [Machine.reply, serviceMachine, requestTransition, parseUuid]
      cases parsed : parsePhase request.targetPhase with
      | error status => cases Runtime.parse request.sessionId <;> rfl
      | ok target =>
          rw [parsed] at sessionless
          dsimp only at sessionless
          rw [sessionless]
  | revisitPhase ambient request =>
      rw [ServiceRequest.session] at sessionless
      simp only [Machine.reply, serviceMachine, revisitPhase, parseUuid]
      cases parsed : parsePhase request.targetPhase with
      | error status => cases Runtime.parse request.sessionId <;> rfl
      | ok target =>
          rw [parsed] at sessionless
          dsimp only at sessionless
          rw [sessionless]

/-- The answer of a handler that needs a session. -/
def onSession {α : Type} (id : Uuid) (answer : SessionState → α) :
    Option SessionState → Except Status α
  | none => .error (sessionNotFound id)
  | some state => .ok (answer state)

/-- The answer tells whether the session is there. -/
theorem onSession_none_ne {α : Type} {id : Uuid} {answer : SessionState → α}
    {wrap : Except Status α → ServiceReply} (injective : Function.Injective wrap)
    (state : SessionState) :
    wrap (onSession id answer none) ≠ wrap (onSession id answer (some state)) := by
  intro same
  cases injective same

/-- A request about a session is answered from that session alone, and tells whether it is
there. -/
theorem exists_answer {request : ServiceRequest} {id : Uuid} (about : request.session = some id) :
    ∃ answer : Option SessionState → ServiceReply,
      (∀ service, serviceMachine.reply service request = answer (service.sessions id)) ∧
        ∀ state, answer none ≠ answer (some state) := by
  cases request with
  | createSession ambient request => cases about
  | getSessionState request =>
      rw [ServiceRequest.session] at about
      refine ⟨fun found => .getSessionState (onSession id stateToProto found), ?_,
        onSession_none_ne fun _ _ => ServiceReply.getSessionState.inj⟩
      intro service
      simp only [Machine.reply, serviceMachine, getSessionState, parseUuid, about]
      cases service.sessions id <;> rfl
  | applyTurnResult ambient request =>
      rw [ServiceRequest.session] at about
      refine ⟨fun found => .applyTurnResult (onSession id
          (fun state => turnResultResponse (turnResult ambient request state)) found), ?_,
        onSession_none_ne fun _ _ => ServiceReply.applyTurnResult.inj⟩
      intro service
      simp only [Machine.reply, serviceMachine, applyTurnResult, parseUuid, about]
      cases service.sessions id <;> rfl
  | requestTransition request =>
      rw [ServiceRequest.session] at about
      cases parsed : parsePhase request.targetPhase with
      | error status =>
          rw [parsed] at about
          cases about
      | ok target =>
          rw [parsed] at about
          dsimp only at about
          refine ⟨fun found => .requestTransition (onSession id
              (fun state => (transitionTo target state).2) found), ?_,
            onSession_none_ne fun _ _ => ServiceReply.requestTransition.inj⟩
          intro service
          simp only [Machine.reply, serviceMachine, requestTransition, parseUuid, about, parsed]
          cases service.sessions id <;> rfl
  | revisitPhase ambient request =>
      rw [ServiceRequest.session] at about
      cases parsed : parsePhase request.targetPhase with
      | error status =>
          rw [parsed] at about
          cases about
      | ok target =>
          rw [parsed] at about
          dsimp only at about
          refine ⟨fun found => .revisitPhase (onSession id
              (fun state => (revisitTo ambient.now target state).2) found), ?_,
            onSession_none_ne fun _ _ => ServiceReply.revisitPhase.inj⟩
          intro service
          simp only [Machine.reply, serviceMachine, revisitPhase, parseUuid, about, parsed]
          cases service.sessions id <;> rfl

omit [Runtime] in
/-- There is a session of another workspace. -/
theorem exists_foreign (workspace : Uuid) : ∃ state, ¬OwnedBy workspace state := by
  by_cases zero : workspace = 0
  · refine ⟨.new 0 0 1 0, ?_⟩
    rw [zero]
    exact (by decide : (1 : Uuid) ≠ 0)
  · exact ⟨.new 0 0 0 0, Ne.symm zero⟩

/-- A request on behalf of a workspace is isolated exactly when it is about no session or
about one of the workspace. -/
theorem isolated_iff (workspace : Uuid) (service : StateEngineService) (request : ServiceRequest)
    (issued : request.IssuedFor workspace) :
    Isolated workspace service request ↔
      ∀ id, request.session = some id →
        ∃ state, service.sessions id = some state ∧ OwnedBy workspace state := by
  rcases exists_foreign workspace with ⟨foreign, invisible⟩
  constructor
  · rintro ⟨agrees, _⟩ id about
    rcases exists_answer about with ⟨answer, replies, distinguishes⟩
    apply (Store.determined_iff invisible distinguishes).mp
    intro sessions same
    rw [← replies, ← replies ⟨sessions⟩]
    exact agrees ⟨sessions⟩ same
  · intro own
    constructor
    · intro other same
      cases about : request.session with
      | none => exact reply_of_sessionless about service other
      | some id =>
          rcases exists_answer about with ⟨answer, replies, distinguishes⟩
          rw [replies, replies]
          exact (Store.determined_iff invisible distinguishes).mpr (own id about) _ same
    · rintro query id state rfl about present
      rcases own id about with ⟨found, here, same⟩
      rw [present, Option.some.injEq] at here
      subst here
      have named : Runtime.parse query.workspaceId = some workspace := issued
      rw [named, ← same]

end Tenancy

/-! ### A session and two workspaces -/

section Sample

attribute [local instance] referenceRuntime

/-- Ask for the freshly created session on behalf of a workspace. -/
def sampleQuery (workspaceId : String) : SessionQuery where
  sessionId := "00000000-0000-0000-0000-0000000000a1"
  workspaceId

/-- The session of the own workspace. -/
theorem isolated_sampleQuery :
    Isolated 0x00000000000040008000000000000001 (serviceMachine.run .new [sampleCreate])
      (.getSessionState (sampleQuery "00000000-0000-4000-8000-000000000001")) := by
  have issued : ReferenceText.parse "00000000-0000-4000-8000-000000000001" =
      some 0x00000000000040008000000000000001 := by decide
  apply (isolated_iff 0x00000000000040008000000000000001 (serviceMachine.run .new [sampleCreate])
    (.getSessionState (sampleQuery "00000000-0000-4000-8000-000000000001")) issued).mpr
  intro id about
  have same : (0xA1 : Uuid) = id := Option.some.inj about
  subst same
  exact ⟨_, rfl, rfl⟩

/-- Another workspace is shown the same session. -/
theorem not_isolated_of_sampleQuery :
    ¬∀ workspace service request, ServiceRequest.IssuedFor workspace request →
      Isolated workspace service request := by
  intro all
  have issued : ReferenceText.parse "00000000-0000-4000-8000-000000000009" =
      some 0x00000000000040008000000000000009 := by decide
  have isolated := all 0x00000000000040008000000000000009
    (serviceMachine.run .new [sampleCreate])
    (.getSessionState (sampleQuery "00000000-0000-4000-8000-000000000009")) issued
  have named : some (0x00000000000040008000000000000009 : Uuid) =
      some 0x00000000000040008000000000000001 := isolated.owned _ 0xA1 _ rfl rfl rfl
  exact absurd named (by decide)

end Sample

end Chitragupt
