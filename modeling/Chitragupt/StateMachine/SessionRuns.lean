import Chitragupt.StateMachine.Runs

/-!
# What a run of the service does to one session

A session sees the requests addressed to it and no others.  Every session of a running
service has been created once, and has taken the steps of the session machine on these
requests since.
-/

namespace Chitragupt

open Machines (Machine Store Command)
open StateEngineService

section SessionRuns

variable [Runtime]

namespace ServiceRequest

/-- The request as the session sees it, when it is addressed to this session. -/
def forSession (id : Uuid) : ServiceRequest → Option SessionRequest
  | .createSession _ _ | .getSessionState _ => none
  | .applyTurnResult ambient request =>
      if Runtime.parse request.sessionId = some id then some (.applyTurnResult ambient request)
      else none
  | .requestTransition request =>
      if Runtime.parse request.sessionId = some id then some (.requestTransition request)
      else none
  | .revisitPhase ambient request =>
      if Runtime.parse request.sessionId = some id then some (.revisitPhase ambient request)
      else none

/-- The request creates no session under the identifier. -/
def Spares (id : Uuid) (request : ServiceRequest) : Prop :=
  ∀ state, request.command ≠ .create id state

theorem command_eq_send_iff {request : ServiceRequest} {id : Uuid} {input : SessionRequest} :
    request.command = .send id input ↔ request.forSession id = some input := by
  have named : ∀ (text : String) (sent : SessionRequest),
      addressed text sent = .send id input ↔
        (if Runtime.parse text = some id then some sent else none) = some input := by
    intro text sent
    rw [addressed]
    cases Runtime.parse text with
    | none => simp
    | some other => by_cases same : other = id <;> simp [same]
  cases request with
  | createSession ambient request =>
      simp only [command, forSession, reduceCtorEq, iff_false]
      split <;> simp
  | getSessionState request => simp [command, forSession]
  | applyTurnResult ambient request => exact named _ _
  | requestTransition request => exact named _ _
  | revisitPhase ambient request => exact named _ _

end ServiceRequest

/-- A session takes the step that the request means to it, or stays as it is. -/
theorem sessions_next {service : StateEngineService} {id : Uuid} {state : SessionState}
    (stored : service.sessions id = some state) {request : ServiceRequest}
    (spares : request.Spares id) :
    (serviceMachine.next service request).sessions id =
      some ((request.forSession id).elim state (sessionMachine.next state)) := by
  rw [serviceMachine_refines]
  cases sent : request.forSession id with
  | some input =>
      rw [ServiceRequest.command_eq_send_iff.mpr sent, Store.perform_send_some stored,
        Store.insert_self]
      rfl
  | none =>
      rw [Option.elim_none, ← stored]
      apply Store.perform_of_keyOf_ne
      intro about
      cases command : request.command with
      | skip =>
          rw [command] at about
          cases about
      | create other created =>
          rw [command] at about
          cases about
          exact spares created command
      | send other input =>
          rw [command] at about
          cases about
          rw [ServiceRequest.command_eq_send_iff, sent] at command
          cases command

/-- After a run the session has taken the steps of its own requests. -/
theorem sessions_run {service : StateEngineService} {id : Uuid} {state : SessionState}
    (stored : service.sessions id = some state) {requests : List ServiceRequest}
    (spares : ∀ request ∈ requests, request.Spares id) :
    (serviceMachine.run service requests).sessions id =
      some (sessionMachine.run state (requests.filterMap (·.forSession id))) := by
  induction requests generalizing service state with
  | nil => exact stored
  | cons request requests ih =>
      rw [List.forall_mem_cons] at spares
      rw [Machine.run_cons, ih (sessions_next stored spares.1) spares.2, List.filterMap_cons]
      cases request.forSession id <;> rfl

/-- A session that is there has been created last by some request, and has taken the steps of
its own requests since. -/
theorem exists_creation {requests : List ServiceRequest} {id : Uuid} {state : SessionState}
    (stored : (serviceMachine.run .new requests).sessions id = some state) :
    ∃ earlier created later fresh, requests = earlier ++ created :: later ∧
      ServiceRequest.command created = .create id fresh ∧
      (∀ request ∈ later, request.Spares id) ∧
      state = sessionMachine.run fresh (later.filterMap (·.forSession id)) := by
  induction requests using List.reverseRecOn generalizing state with
  | nil => simp [StateEngineService.new, Store.empty] at stored
  | append_singleton requests request ih =>
      rw [Machine.run_append, Machine.run_cons, Machine.run_nil] at stored
      by_cases creates : ∃ fresh, request.command = .create id fresh
      · rcases creates with ⟨fresh, command⟩
        rw [serviceMachine_refines, command, Store.perform_create, Store.insert_self,
          Option.some.injEq] at stored
        exact ⟨requests, request, [], fresh, rfl, command, by simp, stored.symm⟩
      · have spares : request.Spares id := fun fresh command => creates ⟨fresh, command⟩
        rw [serviceMachine_refines] at stored
        obtain ⟨before, found⟩ : ∃ before,
            (serviceMachine.run .new requests).sessions id = some before := by
          rcases Store.perform_eq_some stored with
            command | found | ⟨input, before, _, found, _⟩
          · exact absurd command (spares state)
          · exact ⟨state, found⟩
          · exact ⟨before, found⟩
        rcases ih found with ⟨earlier, created, later, fresh, rfl, command, spared, rfl⟩
        rw [← serviceMachine_refines, sessions_next found spares, Option.some.injEq] at stored
        refine ⟨earlier, created, later ++ [request], fresh, by simp, command, ?_, ?_⟩
        · rw [List.forall_mem_append, List.forall_mem_singleton]
          exact ⟨spared, spares⟩
        · rw [← stored, List.filterMap_append, Machine.run_append, List.filterMap_cons]
          cases request.forSession id <;> rfl

end SessionRuns

end Chitragupt
