import Chitragupt.Lib.ReadWriteLock
import Chitragupt.StateMachine.Progress

/-!
# Concurrent RPCs

The sessions stand behind a readers-writer lock, and the RPCs change them field by field
under it.  However the RPCs interleave, they act like RPCs one after another.
-/

namespace Chitragupt

open Machines (Machine Store)
open ReadWriteLock (Section Task)

namespace StateEngineService

variable [Runtime]

/-! ## The RPCs under the lock -/

/-- A critical section of the service. -/
abbrev Body := Section StateEngineService ServiceReply

/-- Change the session behind a mutable reference. -/
def alter (sessionId : Uuid) (change : SessionState → SessionState)
    (service : StateEngineService) : StateEngineService :=
  match service.sessions sessionId with
  | none => service
  | some state => { service with sessions := service.sessions.insert sessionId (change state) }

/-- Look a session up. -/
def lookup (sessionId : Uuid) (refuse : Status → ServiceReply) (found : SessionState → Body) :
    Body :=
  .act (fun service => service) fun service =>
    match service.sessions sessionId with
    | none => .answer (refuse (sessionNotFound sessionId))
    | some state => found state

def createSessionBody (sessionId : Uuid) (state : SessionState) : Body :=
  .act (fun service => { service with sessions := service.sessions.insert sessionId state })
    fun _ => .answer (.createSession (.ok
      { sessionId := Runtime.hyphenated sessionId
        currentPhase := state.currentPhase.displayName }))

def getSessionStateBody (sessionId : Uuid) : Body :=
  lookup sessionId (fun status => .getSessionState (.error status)) fun state =>
    .answer (.getSessionState (.ok (stateToProto state)))

/-- The loop over the entities, one after the other. -/
def entitySteps (ambient : Ambient) (sessionId : Uuid) (behind : Body) :
    Nat → List EntityProto → Body
  | _, [] => behind
  | drawn, proto :: protos =>
      .act (alter sessionId (acceptEntity ambient drawn proto)) fun _ =>
        entitySteps ambient sessionId behind (drawn + 1) protos

/-- The loop over the AC updates. -/
def acUpdateSteps (ambient : Ambient) (sessionId : Uuid) (behind : Body) :
    Nat → List AcUpdateProto → Body
  | _, [] => behind
  | drawn, proto :: protos =>
      .act (alter sessionId fun state =>
        state.applyAcUpdate (ambient.now drawn) (protoToAcUpdate proto)) fun _ =>
          acUpdateSteps ambient sessionId behind (drawn + 1) protos

/-- Cost and turn counter, and the evaluation for the response. -/
def counterSteps (request : TurnResultRequest) (sessionId : Uuid) : Body :=
  .act (alter sessionId fun state =>
    { state with totalLlmCostUsd := state.totalLlmCostUsd + request.costUsd }) fun _ =>
      .act (alter sessionId fun state =>
        { state with
          turnCount := state.turnCount + (max request.turnCountDelta 0).toUInt32 }) fun _ =>
            lookup sessionId (fun status => .applyTurnResult (.error status)) fun state =>
              .answer (.applyTurnResult (.ok (turnResultResponse state)))

def applyTurnResultBody (ambient : Ambient) (request : TurnResultRequest) (sessionId : Uuid) :
    Body :=
  lookup sessionId (fun status => .applyTurnResult (.error status)) fun _ =>
    entitySteps ambient sessionId
      (acUpdateSteps ambient sessionId (counterSteps request sessionId)
        request.entities.length request.acUpdates)
      0 request.entities

def requestTransitionBody (target : SessionPhase) (sessionId : Uuid) : Body :=
  lookup sessionId (fun status => .requestTransition (.error status)) fun state =>
    match TransitionEngine.attempt state target with
    | .ok () =>
        .act (alter sessionId fun state => { state with currentPhase := target }) fun _ =>
          .answer (.requestTransition (.ok
            { approved := true, errorMessage := "", currentPhase := target.displayName }))
    | .error error =>
        .answer (.requestTransition (.ok
          { approved := false
            errorMessage := error.toString
            currentPhase := state.currentPhase.displayName }))

/-- The four assignments of a revisit. -/
def revisitSteps (now : Nat → DateTime) (target origin : SessionPhase) (sessionId : Uuid) :
    Body :=
  .act (alter sessionId fun state =>
    { state with
      revisitHistory := state.revisitHistory ++
        [{ fromPhase := origin, toPhase := target, «at» := now 0 }] }) fun _ =>
    .act (alter sessionId fun state => { state with revisitTarget := some target }) fun _ =>
      .act (alter sessionId fun state => { state with currentPhase := target }) fun _ =>
        .act (alter sessionId fun state => { state with updatedAt := now 1 }) fun _ =>
          .answer (.revisitPhase (.ok
            { ok := true, errorMessage := "", currentPhase := target.displayName }))

def revisitPhaseBody (now : Nat → DateTime) (target : SessionPhase) (sessionId : Uuid) : Body :=
  lookup sessionId (fun status => .revisitPhase (.error status)) fun state =>
    match TransitionEngine.revisit now state target with
    | .ok _ => revisitSteps now target state.currentPhase sessionId
    | .error error =>
        .answer (.revisitPhase (.ok
          { ok := false
            errorMessage := error.toString
            currentPhase := state.currentPhase.displayName }))

theorem readOnly_getSessionStateBody (sessionId : Uuid) :
    (getSessionStateBody sessionId).ReadOnly := by
  intro service
  refine ⟨rfl, ?_⟩
  dsimp only
  cases service.sessions sessionId <;> trivial

/-- An RPC parses its request before it asks for the lock. -/
def task : ServiceRequest → Task StateEngineService ServiceReply
  | .createSession ambient request =>
      match parseUuid request.workspaceId "workspace_id" with
      | .error status => .outside (.createSession (.error status))
      | .ok workspaceId =>
          match parseUuid request.projectId "project_id" with
          | .error status => .outside (.createSession (.error status))
          | .ok projectId =>
              .write (createSessionBody (ambient.newV4 0)
                (.new (ambient.newV4 0) (ambient.now 0) workspaceId projectId))
  | .getSessionState request =>
      match parseUuid request.sessionId "session_id" with
      | .error status => .outside (.getSessionState (.error status))
      | .ok sessionId =>
          .read (getSessionStateBody sessionId) (readOnly_getSessionStateBody sessionId)
  | .applyTurnResult ambient request =>
      match parseUuid request.sessionId "session_id" with
      | .error status => .outside (.applyTurnResult (.error status))
      | .ok sessionId => .write (applyTurnResultBody ambient request sessionId)
  | .requestTransition request =>
      match parseUuid request.sessionId "session_id" with
      | .error status => .outside (.requestTransition (.error status))
      | .ok sessionId =>
          match parsePhase request.targetPhase with
          | .error status => .outside (.requestTransition (.error status))
          | .ok target => .write (requestTransitionBody target sessionId)
  | .revisitPhase ambient request =>
      match parseUuid request.sessionId "session_id" with
      | .error status => .outside (.revisitPhase (.error status))
      | .ok sessionId =>
          match parsePhase request.targetPhase with
          | .error status => .outside (.revisitPhase (.error status))
          | .ok target => .write (revisitPhaseBody ambient.now target sessionId)

/-! ## An RPC alone -/

variable {service : StateEngineService} {sessionId : Uuid} {state : SessionState}

omit [Runtime] in
/-- A session changes in place. -/
theorem alter_insert (sessions : Store Uuid SessionState) (state : SessionState)
    (change : SessionState → SessionState) :
    alter sessionId change ⟨sessions.insert sessionId state⟩ =
      ⟨sessions.insert sessionId (change state)⟩ := by
  rw [alter]
  simp only [Store.insert_self]
  rw [Store.insert, Store.insert, Store.insert, Function.update_idem]

theorem perform_lookup_none {refuse : Status → ServiceReply} {found : SessionState → Body}
    (absent : service.sessions sessionId = none) :
    (lookup sessionId refuse found).perform service =
      (service, refuse (sessionNotFound sessionId)) := by
  simp only [lookup, Section.perform, absent]

theorem perform_lookup_some {refuse : Status → ServiceReply} {found : SessionState → Body}
    (present : service.sessions sessionId = some state) :
    (lookup sessionId refuse found).perform service = (found state).perform service := by
  simp only [lookup, Section.perform, present]

theorem perform_entitySteps (ambient : Ambient) (behind : Body)
    (sessions : Store Uuid SessionState) (drawn : Nat) (protos : List EntityProto)
    (state : SessionState) :
    (entitySteps ambient sessionId behind drawn protos).perform
        ⟨sessions.insert sessionId state⟩ =
      behind.perform ⟨sessions.insert sessionId (applyEntities ambient drawn protos state)⟩ := by
  induction protos generalizing drawn state with
  | nil => rfl
  | cons proto protos ih =>
      rw [entitySteps, Section.perform, alter_insert, ih]
      rfl

omit [Runtime] in
theorem perform_acUpdateSteps (ambient : Ambient) (behind : Body)
    (sessions : Store Uuid SessionState) (drawn : Nat) (protos : List AcUpdateProto)
    (state : SessionState) :
    (acUpdateSteps ambient sessionId behind drawn protos).perform
        ⟨sessions.insert sessionId state⟩ =
      behind.perform ⟨sessions.insert sessionId (applyAcUpdates ambient drawn protos state)⟩ := by
  induction protos generalizing drawn state with
  | nil => rfl
  | cons proto protos ih =>
      rw [acUpdateSteps, Section.perform, alter_insert, ih]
      rfl

section Present

variable {sessions : Store Uuid SessionState} (present : sessions sessionId = some state)

include present

omit [Runtime] in
theorem mk_eq_insert : (⟨sessions⟩ : StateEngineService) = ⟨sessions.insert sessionId state⟩ :=
  congrArg StateEngineService.mk (Store.insert_eq_self present).symm

/-- The steps of a turn result add up to the turn result. -/
theorem perform_applyTurnResultBody (ambient : Ambient) (request : TurnResultRequest) :
    (applyTurnResultBody ambient request sessionId).perform ⟨sessions⟩ =
      (⟨sessions.insert sessionId (turnResult ambient request state)⟩,
        .applyTurnResult (.ok (turnResultResponse (turnResult ambient request state)))) := by
  rw [applyTurnResultBody, perform_lookup_some present, mk_eq_insert present,
    perform_entitySteps, perform_acUpdateSteps, counterSteps, Section.perform, alter_insert,
    Section.perform, alter_insert, perform_lookup_some (Store.insert_self _ _ _)]
  rfl

theorem perform_requestTransitionBody (target : SessionPhase) :
    (requestTransitionBody target sessionId).perform ⟨sessions⟩ =
      (⟨sessions.insert sessionId (transitionTo target state).1⟩,
        .requestTransition (.ok (transitionTo target state).2)) := by
  rw [requestTransitionBody, perform_lookup_some present, transitionTo, mk_eq_insert present]
  cases TransitionEngine.attempt state target with
  | ok _ =>
      dsimp only
      rw [Section.perform, alter_insert]
      rfl
  | error error => rfl

/-- The four assignments of a revisit add up to the revisit. -/
theorem perform_revisitPhaseBody (now : Nat → DateTime) (target : SessionPhase) :
    (revisitPhaseBody now target sessionId).perform ⟨sessions⟩ =
      (⟨sessions.insert sessionId (revisitTo now target state).1⟩,
        .revisitPhase (.ok (revisitTo now target state).2)) := by
  rw [revisitPhaseBody, perform_lookup_some present, revisitTo, mk_eq_insert present]
  cases revisited : TransitionEngine.revisit now state target with
  | ok after =>
      rcases TransitionEngine.revisit_eq_ok.mp revisited with ⟨_, _, rfl⟩
      dsimp only
      rw [revisitSteps, Section.perform, alter_insert, Section.perform, alter_insert,
        Section.perform, alter_insert, Section.perform, alter_insert]
      rfl
  | error error => rfl

end Present

/-- Alone, the steps of an RPC do what the RPC does. -/
theorem perform_task (service : StateEngineService) (request : ServiceRequest) :
    (task request).perform service = serviceMachine.step service request := by
  rcases service with ⟨sessions⟩
  cases request with
  | createSession ambient request =>
      simp only [task, serviceMachine, createSession]
      cases parseUuid request.workspaceId "workspace_id" with
      | error status => rfl
      | ok workspaceId => cases parseUuid request.projectId "project_id" <;> rfl
  | getSessionState request =>
      simp only [task, serviceMachine, getSessionState]
      cases parseUuid request.sessionId "session_id" with
      | error status => rfl
      | ok sessionId =>
          cases found : sessions sessionId with
          | none =>
              simp only [found]
              rw [Task.perform, getSessionStateBody, perform_lookup_none found]
          | some state =>
              simp only [found]
              rw [Task.perform, getSessionStateBody, perform_lookup_some found, Section.perform]
  | applyTurnResult ambient request =>
      simp only [task, serviceMachine, applyTurnResult]
      cases parseUuid request.sessionId "session_id" with
      | error status => rfl
      | ok sessionId =>
          cases found : sessions sessionId with
          | none =>
              simp only [found]
              rw [Task.perform, applyTurnResultBody, perform_lookup_none found]
          | some state =>
              simp only [found]
              exact perform_applyTurnResultBody found ambient request
  | requestTransition request =>
      simp only [task, serviceMachine, requestTransition]
      cases parseUuid request.sessionId "session_id" with
      | error status => rfl
      | ok sessionId =>
          cases parsePhase request.targetPhase with
          | error status => rfl
          | ok target =>
              cases found : sessions sessionId with
              | none =>
                  simp only [found]
                  rw [Task.perform, requestTransitionBody, perform_lookup_none found]
              | some state =>
                  simp only [found]
                  exact perform_requestTransitionBody found target
  | revisitPhase ambient request =>
      simp only [task, serviceMachine, revisitPhase]
      cases parseUuid request.sessionId "session_id" with
      | error status => rfl
      | ok sessionId =>
          cases parsePhase request.targetPhase with
          | error status => rfl
          | ok target =>
              cases found : sessions sessionId with
              | none =>
                  simp only [found]
                  rw [Task.perform, revisitPhaseBody, perform_lookup_none found]
              | some state =>
                  simp only [found]
                  exact perform_revisitPhaseBody found ambient.now target

/-! ## The RPCs together -/

section Runs

variable {κ : Type*} (requests : κ → ServiceRequest)

/-- RPCs one after another are a run of the service. -/
theorem serial_eq_run (keys : List κ) (service : StateEngineService) :
    ReadWriteLock.serial (fun key => task (requests key)) keys service =
      serviceMachine.run service (keys.map requests) := by
  induction keys generalizing service with
  | nil => rfl
  | cons key keys ih =>
      have first : ((task (requests key)).perform service).1 =
          serviceMachine.next service (requests key) := by
        rw [perform_task]
        rfl
      rw [List.map_cons, Machine.run_cons, ← ih, ← first]
      rfl

end Runs

end StateEngineService

section Main

open ReadWriteLock (Action State)

variable [Runtime] {κ : Type*} [DecidableEq κ] (requests : κ → ServiceRequest)

/-- The RPCs of a schedule, each of them as its steps under the lock. -/
abbrev tasks (key : κ) : Task StateEngineService ServiceReply :=
  StateEngineService.task (requests key)

/-- The order in which the RPCs of a schedule take effect. -/
def effectOrder (actions : List (Action κ)) : List κ :=
  ReadWriteLock.order (tasks requests) actions

variable {requests} {service : StateEngineService} {actions : List (Action κ)}
  {state : State κ StateEngineService ServiceReply}

/-- However the steps of concurrent RPCs interleave under the lock of the sessions, there
is an order of these RPCs such that the sessions, whenever no RPC is writing, and all
responses are those of the RPCs one after another; and an RPC that was answered before
another one arrived stands before it. -/
theorem rpcs_linearizable
    (ran : ReadWriteLock.run (tasks requests) (.initial service) actions = some state) :
    (effectOrder requests actions).Nodup ∧
      (state.writer = none → state.value =
        serviceMachine.run service ((effectOrder requests actions).map requests)) ∧
      (∀ key reply, state.phase key = .answered reply →
        ∃ before after, effectOrder requests actions = before ++ key :: after ∧
          reply = serviceMachine.reply (serviceMachine.run service (before.map requests))
            (requests key)) ∧
      ∀ earlier later middle, actions = earlier ++ later →
        ReadWriteLock.run (tasks requests) (.initial service) earlier = some middle →
          ∀ first second reply, middle.phase first = .answered reply →
            middle.phase second = .idle → second ∈ effectOrder requests actions →
              ∃ before between after, effectOrder requests actions =
                before ++ first :: between ++ second :: after := by
  refine ⟨(ReadWriteLock.linear_run ran).once, fun free => ?_, fun key reply answered => ?_,
    ?_⟩
  · rw [ReadWriteLock.value_of_run ran free]
    exact StateEngineService.serial_eq_run requests _ service
  · rcases ReadWriteLock.reply_of_run ran answered with ⟨before, after, same, rfl⟩
    refine ⟨before, after, same, ?_⟩
    rw [StateEngineService.serial_eq_run, StateEngineService.perform_task]
    rfl
  · rintro earlier later middle rfl first second third reply answered idle effective
    exact ReadWriteLock.before_of_run first answered idle effective

/-- No schedule of RPCs gets stuck: all that have arrived and were not dropped can still be
answered, without any help from outside. -/
theorem rpcs_completable
    (ran : ReadWriteLock.run (tasks requests) (.initial service) actions = some state) :
    ∃ more after, (∀ action ∈ more, Action.isProgress action = true) ∧
      ReadWriteLock.run (tasks requests) (.initial service) (actions ++ more) = some after ∧
      ∀ key, if (state.phase key).isPending then ∃ reply, after.phase key = .answered reply
        else after.phase key = state.phase key :=
  ReadWriteLock.exists_completion ran

end Main

/-! ### A reader that arrives before the session is there -/

section Sample

open ReadWriteLock (Action)

attribute [local instance] referenceRuntime

/-- One RPC creates a session, and the other one looks it up. -/
def sampleRpcs : Bool → ServiceRequest
  | false => sampleCreate
  | true => .getSessionState
      { sessionId := "00000000-0000-0000-0000-0000000000a1", workspaceId := "" }

def sampleSchedule : List (Action Bool) :=
  [.arrive true, .arrive false, .grant false, .advance false, .advance false, .grant true,
    .advance true, .advance true]

theorem exists_state_sampleSchedule : ∃ state,
    ReadWriteLock.run (tasks sampleRpcs) (.initial .new) sampleSchedule = some state :=
  Option.isSome_iff_exists.mp (by decide +kernel)

/-- The session is created before it is looked up. -/
theorem rpcs_linearizable_sampleSchedule : ∃ state,
    ReadWriteLock.run (tasks sampleRpcs) (.initial .new) sampleSchedule = some state ∧
      effectOrder sampleRpcs sampleSchedule = [false, true] ∧
        (state.writer = none → state.value =
          serviceMachine.run .new ((effectOrder sampleRpcs sampleSchedule).map sampleRpcs)) := by
  rcases exists_state_sampleSchedule with ⟨state, ran⟩
  exact ⟨state, ran, by decide +kernel, (rpcs_linearizable ran).2.1⟩

end Sample

end Chitragupt
