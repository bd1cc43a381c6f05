import Chitragupt.StateMachine.SessionRuns

/-!
# The audit trail of revisits

A revisit writes the phase, the target, the time and one record, and nothing else.  The
records of a session are its successful revisits in order, and together with the approved
transitions they lead from the first phase to the current one.
-/

namespace Chitragupt

open Machines (Machine Event Command)
open StateEngineService

/-! ## Moves between phases -/

/-- A change of phase: an approved transition, or a revisit with its record. -/
inductive PhaseMove where
  | transition (target : SessionPhase)
  | revisit (record : RevisitRecord)

namespace PhaseMove

/-- The record that the move leaves. -/
def record : PhaseMove → Option RevisitRecord
  | .transition _ => none
  | .revisit record => some record

/-- The move replayed from a phase, when it starts there. -/
def replay (phase : SessionPhase) : PhaseMove → Option SessionPhase
  | .transition target => if target ∈ phase.validTransitions then some target else none
  | .revisit record => if record.fromPhase = phase then some record.toPhase else none

end PhaseMove

section RevisitAudit

variable [Runtime]

namespace SessionEvent

/-- The change of phase that the reply confirms. -/
def move (event : SessionEvent) : Option PhaseMove :=
  match event.input with
  | .applyTurnResult _ _ => none
  | .requestTransition request =>
      if event.output.approved then
        (parsePhase request.targetPhase).toOption.map .transition
      else none
  | .revisitPhase ambient request =>
      if event.output.revisited then
        (parsePhase request.targetPhase).toOption.map fun target =>
          .revisit
            { fromPhase := event.before.currentPhase, toPhase := target, «at» := ambient.now 0 }
      else none

/-- A confirmed revisit changes the phase, the target, the time and the history, and a
refused one changes nothing. -/
def RevisitKeepsData (event : SessionEvent) : Prop :=
  match event.input with
  | .applyTurnResult _ _ | .requestTransition _ => True
  | .revisitPhase ambient request =>
      if event.output.revisited then
        ∃ target, parsePhase request.targetPhase = .ok target ∧
          event.after = { event.before with
            currentPhase := target
            revisitTarget := some target
            updatedAt := ambient.now 1
            revisitHistory := event.before.revisitHistory ++
              [{ fromPhase := event.before.currentPhase
                 toPhase := target
                 «at» := ambient.now 0 }] }
      else event.after = event.before

end SessionEvent

/-- The moves of a session, in order. -/
def phaseMoves (events : List SessionEvent) : List PhaseMove := events.filterMap (·.move)

/-- The revisit fields of a session agree with what has happened to it. -/
structure RevisitsAudited (start : SessionPhase) (events : List SessionEvent)
    (state : SessionState) : Prop where
  history : state.revisitHistory = (phaseMoves events).filterMap PhaseMove.record
  records : ∀ record ∈ state.revisitHistory,
    record.fromPhase ≠ record.toPhase ∧ record.toPhase ≠ .signedOff
  target : state.revisitTarget = state.revisitHistory.getLast?.map RevisitRecord.toPhase
  replayed : (phaseMoves events).foldlM PhaseMove.replay start = some state.currentPhase

namespace RevisitsAudited

variable {start : SessionPhase} {events : List SessionEvent} {state after : SessionState}
  {event : SessionEvent}

omit [Runtime] in
theorem revisitTarget_eq_none_iff (audited : RevisitsAudited start events state) :
    state.revisitTarget = none ↔ state.revisitHistory = [] := by
  rw [audited.target, Option.map_eq_none_iff, List.getLast?_eq_none_iff]

omit [Runtime] in
/-- An event without a move leaves the trail as it is. -/
theorem concat_none (audited : RevisitsAudited start events state) (idle : event.move = none)
    (history : after.revisitHistory = state.revisitHistory)
    (target : after.revisitTarget = state.revisitTarget)
    (phase : after.currentPhase = state.currentPhase) :
    RevisitsAudited start (events ++ [event]) after := by
  have same : phaseMoves (events ++ [event]) = phaseMoves events := by
    simp [phaseMoves, idle]
  exact {
    history := by rw [history, same, audited.history]
    records := by
      rw [history]
      exact audited.records
    target := by rw [history, target, audited.target]
    replayed := by rw [phase, same, audited.replayed] }

omit [Runtime] in
/-- An approved transition along an edge is one move without a record. -/
theorem concat_transition (audited : RevisitsAudited start events state)
    {target : SessionPhase} (moved : event.move = some (.transition target))
    (edge : target ∈ state.currentPhase.validTransitions) :
    RevisitsAudited start (events ++ [event]) { state with currentPhase := target } := by
  have moves : phaseMoves (events ++ [event]) = phaseMoves events ++ [.transition target] := by
    simp [phaseMoves, moved]
  exact {
    history := by
      rw [moves, List.filterMap_append, ← audited.history]
      simp [PhaseMove.record]
    records := audited.records
    target := audited.target
    replayed := by
      rw [moves, List.foldlM_append, audited.replayed]
      simp [PhaseMove.replay, edge] }

omit [Runtime] in
/-- A revisit is one move with a record that starts in the current phase. -/
theorem concat_revisit (audited : RevisitsAudited start events state)
    {record : RevisitRecord} (moved : event.move = some (.revisit record))
    (source : record.fromPhase = state.currentPhase)
    (different : record.toPhase ≠ state.currentPhase) (notFinal : record.toPhase ≠ .signedOff)
    (history : after.revisitHistory = state.revisitHistory ++ [record])
    (target : after.revisitTarget = some record.toPhase)
    (phase : after.currentPhase = record.toPhase) :
    RevisitsAudited start (events ++ [event]) after := by
  have moves : phaseMoves (events ++ [event]) = phaseMoves events ++ [.revisit record] := by
    simp [phaseMoves, moved]
  exact {
    history := by
      rw [history, moves, List.filterMap_append, ← audited.history]
      simp [PhaseMove.record]
    records := by
      rw [history, List.forall_mem_append, List.forall_mem_singleton]
      exact ⟨audited.records, source ▸ different.symm, notFinal⟩
    target := by rw [target, history, List.getLast?_concat, Option.map_some]
    replayed := by
      rw [moves, List.foldlM_append, audited.replayed]
      simp [PhaseMove.replay, source, phase] }

end RevisitsAudited

/-! ## One step -/

/-- Whatever the step, a revisit writes its own fields only. -/
theorem SessionStep.revisitKeepsData {event : SessionEvent}
    (step : SessionStep event.before event.input event.after event.output) :
    event.RevisitKeepsData := by
  rcases event with ⟨before, input, output, after⟩
  dsimp only at step
  cases step with
  | turn ambient request _ _ _ => trivial
  | approve request target _ _ _ _ _ => trivial
  | block request _ _ _ _ => trivial
  | revisit ambient request target _ _ parsed attempted _ revisited =>
      simp only [SessionEvent.RevisitKeepsData, revisited, if_true]
      exact ⟨target, parsed, (TransitionEngine.revisit_eq_ok.mp attempted).2.2⟩
  | refuse ambient request _ _ _ refused =>
      simp only [SessionEvent.RevisitKeepsData, refused, Bool.false_eq_true, if_false]

/-- And the trail goes on with the move of the step. -/
theorem RevisitsAudited.next {start : SessionPhase} {events : List SessionEvent}
    {event : SessionEvent} (audited : RevisitsAudited start events event.before)
    (step : SessionStep event.before event.input event.after event.output) :
    RevisitsAudited start (events ++ [event]) event.after := by
  rcases event with ⟨state, input, output, after⟩
  dsimp only at step audited ⊢
  cases step with
  | turn ambient request _ _ _ =>
      have kept := withoutTurnFields_turnResult ambient request state
      have history := congrArg SessionState.revisitHistory kept
      have target := congrArg SessionState.revisitTarget kept
      exact audited.concat_none rfl history target (currentPhase_turnResult ambient request state)
  | approve request target _ parsed attempted approved _ =>
      refine audited.concat_transition ?_ (TransitionEngine.attempt_eq_ok.mp attempted).1
      simp only [SessionEvent.move, approved, parsed]
      rfl
  | block request _ _ denied _ =>
      exact audited.concat_none (by simp [SessionEvent.move, denied]) rfl rfl rfl
  | revisit ambient request target _ _ parsed attempted _ revisited =>
      rcases TransitionEngine.revisit_eq_ok.mp attempted with ⟨notFinal, different, rfl⟩
      have moved (after : SessionState) :
          SessionEvent.move ⟨state, .revisitPhase ambient request, output, after⟩ =
            some (.revisit ⟨state.currentPhase, target, ambient.now 0⟩) := by
        simp only [SessionEvent.move, revisited, parsed]
        rfl
      exact audited.concat_revisit (moved _) rfl different notFinal rfl rfl rfl
  | refuse ambient request _ _ _ refused =>
      exact audited.concat_none (by simp [SessionEvent.move, refused]) rfl rfl rfl

/-! ## Every run -/

omit [Runtime] in
theorem RevisitsAudited.new (id : Uuid) (now : DateTime) (workspaceId projectId : Uuid) :
    RevisitsAudited .problemIntake [] (.new id now workspaceId projectId) where
  history := rfl
  records := nofun
  target := rfl
  replayed := rfl

/-- In every run of turn results, transitions and revisits on a new session no revisit loses
data, and the trail of revisits is complete and leads to the current phase. -/
theorem revisitsAudited_of_run (id : Uuid) (now : DateTime) (workspaceId projectId : Uuid)
    (requests : List SessionRequest) :
    let start := SessionState.new id now workspaceId projectId
    (∀ event ∈ sessionMachine.trace start requests, SessionEvent.RevisitKeepsData event) ∧
      RevisitsAudited .problemIntake (sessionMachine.trace start requests)
        (sessionMachine.run start requests) ∧
      ((sessionMachine.run start requests).revisitTarget = none ↔
        (sessionMachine.run start requests).revisitHistory = []) := by
  intro start
  have audited : RevisitsAudited .problemIntake (sessionMachine.trace start requests)
      (sessionMachine.run start requests) :=
    sessionMachine.history_run (.new id now workspaceId projectId)
      (fun events state request _ audited => audited.next (sessionMachine_step state request))
      (sessionMachine.meets_of_forall fun _ _ => trivial)
  refine ⟨?_, audited, audited.revisitTarget_eq_none_iff⟩
  intro event member
  rcases sessionMachine.mem_trace.mp member with ⟨earlier, request, later, _, rfl⟩
  exact (sessionMachine_step _ request).revisitKeepsData

/-- So it does for every session that a service stores, from its creation on. -/
theorem exists_revisitsAudited {requests : List ServiceRequest} {id : Uuid}
    {state : SessionState} (stored : (serviceMachine.run .new requests).sessions id = some state) :
    ∃ earlier created later fresh, requests = earlier ++ created :: later ∧
      ServiceRequest.command created = .create id fresh ∧
      RevisitsAudited .problemIntake
        (sessionMachine.trace fresh (later.filterMap (·.forSession id))) state := by
  rcases exists_creation stored with ⟨earlier, created, later, fresh, rfl, command, _, rfl⟩
  refine ⟨earlier, created, later, fresh, rfl, command, ?_⟩
  rcases ServiceRequest.eq_new_of_command command with ⟨_, _, _, _, _, rfl⟩
  exact (revisitsAudited_of_run _ _ _ _ _).2.1

end RevisitAudit

end Chitragupt
