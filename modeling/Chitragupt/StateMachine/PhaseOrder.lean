import Chitragupt.StateMachine.Progress

/-!
# Phases and the edges that lead to them

A session has earned its phase when each forward edge below that phase was approved
by an earlier transition request on the session.  A revisit moves without an edge,
so the property is compared with the revisits of the run: it holds throughout
exactly when no revisit leads past the phase it starts from.
-/

namespace Chitragupt

open Machines (Machine Event Store Command)

section PhaseOrder

variable [Runtime]

open StateEngineService

/-- The event approves the edge on the session. -/
def ServiceEvent.Approves (event : ServiceEvent) (id : Uuid)
    (source target : SessionPhase) : Prop :=
  ∃ transition state, event.input = .requestTransition transition ∧
    Runtime.parse transition.sessionId = some id ∧
    parsePhase transition.targetPhase = .ok target ∧
    event.before.sessions id = some state ∧ state.currentPhase = source ∧
    event.output.approved = true

/-- Every edge on the way to the current phase of every session was approved. -/
def PhasesEarned (events : List ServiceEvent) (service : StateEngineService) : Prop :=
  ∀ id state, service.sessions id = some state →
    ∀ source target : SessionPhase, target ∈ source.validTransitions →
      target.position ≤ state.currentPhase.position →
      ∃ event ∈ events, ServiceEvent.Approves event id source target

/-- A revisit that would succeed leads back to an earlier phase. -/
def RevisitsEarlier (service : StateEngineService) : ServiceRequest → Prop
  | .revisitPhase _ request =>
      ∀ id state target, Runtime.parse request.sessionId = some id →
        service.sessions id = some state → parsePhase request.targetPhase = .ok target →
        target ≠ .signedOff → target.position ≤ state.currentPhase.position
  | _ => True

/-- The request behind a command on one session. -/
theorem command_eq_send {request : ServiceRequest} {id : Uuid} {input : SessionRequest}
    (sent : request.command = .send id input) :
    (∃ ambient turn, request = .applyTurnResult ambient turn ∧
        input = .applyTurnResult ambient turn ∧ Runtime.parse turn.sessionId = some id) ∨
    (∃ transition, request = .requestTransition transition ∧
        input = .requestTransition transition ∧
        Runtime.parse transition.sessionId = some id) ∨
    (∃ ambient revisit, request = .revisitPhase ambient revisit ∧
        input = .revisitPhase ambient revisit ∧
        Runtime.parse revisit.sessionId = some id) := by
  cases request with
  | createSession _ _ =>
      simp only [ServiceRequest.command] at sent
      split at sent <;> cases sent
  | getSessionState _ => cases sent
  | applyTurnResult ambient turn =>
      simp only [ServiceRequest.command, addressed] at sent
      split at sent
      next named =>
        cases sent
        exact .inl ⟨ambient, turn, rfl, rfl, named⟩
      next => cases sent
  | requestTransition transition =>
      simp only [ServiceRequest.command, addressed] at sent
      split at sent
      next named =>
        cases sent
        exact .inr (.inl ⟨transition, rfl, rfl, named⟩)
      next => cases sent
  | revisitPhase ambient revisit =>
      simp only [ServiceRequest.command, addressed] at sent
      split at sent
      next named =>
        cases sent
        exact .inr (.inr ⟨ambient, revisit, rfl, rfl, named⟩)
      next => cases sent

/-- A created session starts in the first phase. -/
theorem currentPhase_of_command_create {request : ServiceRequest} {id : Uuid}
    {state : SessionState} (created : request.command = .create id state) :
    state.currentPhase = .problemIntake := by
  rcases ServiceRequest.eq_new_of_command created with ⟨_, _, _, _, _, rfl⟩
  rfl

/-- How the phase of a session can change in one step: not at all, along an approved
edge, or by a revisit. -/
theorem currentPhase_step (state : SessionState) (request : SessionRequest) :
    (sessionMachine.next state request).currentPhase = state.currentPhase ∨
    (∃ transition target, request = .requestTransition transition ∧
      parsePhase transition.targetPhase = .ok target ∧
      target ∈ state.currentPhase.validTransitions ∧
      (sessionMachine.next state request).currentPhase = target ∧
      (sessionMachine.reply state request).approved = true) ∨
    (∃ ambient revisit target, request = .revisitPhase ambient revisit ∧
      parsePhase revisit.targetPhase = .ok target ∧ target ≠ .signedOff ∧
      (sessionMachine.next state request).currentPhase = target) := by
  have step := sessionMachine_step state request
  generalize sessionMachine.next state request = after at step ⊢
  generalize sessionMachine.reply state request = reply at step ⊢
  cases step with
  | turn ambient request _ _ _ =>
      exact .inl (currentPhase_turnResult ambient request state)
  | block _ _ _ _ _ => exact .inl rfl
  | refuse _ _ _ _ _ _ => exact .inl rfl
  | approve transition target _ parsed attempted approved _ =>
      have edge := (TransitionEngine.attempt_eq_ok.mp attempted).1
      exact .inr (.inl ⟨transition, target, rfl, parsed, edge, rfl, approved⟩)
  | revisit ambient revisit target _ _ parsed attempted _ _ =>
      rcases TransitionEngine.revisit_eq_ok.mp attempted with ⟨notFinal, _, rfl⟩
      exact .inr (.inr ⟨ambient, revisit, target, rfl, parsed, notFinal, rfl⟩)

/-- One step with an earlier revisit, if any, keeps every phase earned. -/
theorem PhasesEarned.next {events : List ServiceEvent} {service : StateEngineService}
    {request : ServiceRequest} (earlier : RevisitsEarlier service request)
    (earned : PhasesEarned events service) :
    PhasesEarned (events ++ [serviceMachine.event service request])
      (serviceMachine.next service request) := by
  intro id after present source target edge below
  have carried : ∀ state, service.sessions id = some state →
      target.position ≤ state.currentPhase.position →
      ∃ event ∈ events ++ [serviceMachine.event service request],
        ServiceEvent.Approves event id source target := by
    intro state found reach
    rcases earned id state found source target edge reach with ⟨event, member, approves⟩
    exact ⟨event, List.mem_append_left _ member, approves⟩
  rw [serviceMachine_refines] at present
  rcases Store.perform_eq_some present with
    created | untouched | ⟨input, state, sent, found, rfl⟩
  · -- A fresh session has no edge below its phase.
    rw [currentPhase_of_command_create created] at below
    rw [SessionPhase.position_of_mem_validTransitions edge] at below
    simp [SessionPhase.position] at below
  · exact carried after untouched below
  · rcases currentPhase_step state input with
      same | ⟨transition, reached, rfl, parsed, taken, moved, approved⟩ |
        ⟨ambient, revisit, reached, rfl, parsed, notFinal, moved⟩
    · rw [same] at below
      exact carried state found below
    · rw [moved] at below
      by_cases old : target.position ≤ state.currentPhase.position
      · exact carried state found old
      · -- The only new edge below the phase is the one just approved.
        have next := SessionPhase.position_of_mem_validTransitions taken
        have sameTarget : target = reached :=
          SessionPhase.position_injective (by omega)
        have sameSource : source = state.currentPhase := by
          apply SessionPhase.position_injective
          have step := SessionPhase.position_of_mem_validTransitions edge
          omega
        rcases command_eq_send sent with
          ⟨_, _, _, mismatch, _⟩ | ⟨_, rfl, same, named⟩ | ⟨_, _, _, mismatch, _⟩
        · cases mismatch
        · cases same
          have accepted := approved_iff.mpr ⟨transition, id, state, rfl, named, found, approved⟩
          refine ⟨_, List.mem_append_right _ List.mem_cons_self, transition, state, rfl, named,
            ?_, found, sameSource.symm, accepted⟩
          rw [sameTarget]
          exact parsed
        · cases mismatch
    · rw [moved] at below
      rcases command_eq_send sent with
        ⟨_, _, _, mismatch, _⟩ | ⟨_, _, mismatch, _⟩ | ⟨_, _, rfl, same, named⟩
      · cases mismatch
      · cases mismatch
      · cases same
        have back := earlier id state reached named found parsed notFinal
        exact carried state found (below.trans back)

theorem phasesEarned_nil : PhasesEarned [] (StateEngineService.new) := by
  intro id state present
  simp [StateEngineService.new, Store.empty] at present

/-- No run approves an edge, so an earned phase is the first one. -/
theorem PhasesEarned.position_eq_zero {requests : List ServiceRequest}
    (earned : PhasesEarned (serviceMachine.trace .new requests)
      (serviceMachine.run .new requests))
    {id : Uuid} {state : SessionState}
    (present : (serviceMachine.run .new requests).sessions id = some state) :
    state.currentPhase.position = 0 := by
  by_contra moved
  obtain ⟨source, target, edge, reach⟩ : ∃ source target : SessionPhase,
      target ∈ source.validTransitions ∧
        target.position ≤ state.currentPhase.position :=
    ⟨.problemIntake, .stakeholderDiscovery, List.mem_cons_self,
      Nat.one_le_iff_ne_zero.mpr moved⟩
  obtain ⟨event, member, _, _, _, _, _, _, _, approved⟩ :=
    earned id state present source target edge reach
  simp [not_approved_of_run member] at approved

/-- A phase is never skipped in a run exactly when every revisit of the run leads back
to an earlier phase. -/
theorem phasesEarned_iff_revisitsEarlier (requests : List ServiceRequest) :
    (∀ before, before <+: requests →
      PhasesEarned (serviceMachine.trace .new before) (serviceMachine.run .new before)) ↔
      serviceMachine.Meets RevisitsEarlier .new requests := by
  constructor
  · intro earned event happened
    rcases (Machine.mem_trace _).mp happened with ⟨before, request, after, rfl, rfl⟩
    cases request with
    | createSession _ _ | getSessionState _ | applyTurnResult _ _ | requestTransition _ =>
        trivial
    | revisitPhase ambient revisit =>
        intro id state target named found parsed notFinal
        by_contra later
        have different : target ≠ state.currentPhase := by
          intro same
          exact later (same ▸ le_rfl)
        -- The state after the revisit is in the target phase, which nothing earned.
        obtain ⟨moved, attempted⟩ : ∃ moved, TransitionEngine.revisit ambient.now state
            target = .ok moved := ⟨_, TransitionEngine.revisit_eq_ok.mpr
              ⟨notFinal, different, rfl⟩⟩
        have present : (serviceMachine.run .new
            (before ++ [.revisitPhase ambient revisit])).sessions id = some moved := by
          rw [Machine.run_append, Machine.run_cons, Machine.run_nil, serviceMachine_refines]
          have sent : (ServiceRequest.revisitPhase ambient revisit).command =
              .send id (.revisitPhase ambient revisit) := by
            simp only [ServiceRequest.command, addressed, named]
          change (serviceMachine.run .new before).sessions id = some state at found
          rw [sent, Store.perform_send_some found, Store.insert_self, Option.some.injEq]
          simp only [Machine.next, sessionMachine, parsed, revisitTo, attempted]
        have prefix' : before ++ [.revisitPhase ambient revisit] <+:
            before ++ .revisitPhase ambient revisit :: after := by
          rw [List.prefix_append_right_inj]
          exact ⟨after, rfl⟩
        have zero := (earned _ prefix').position_eq_zero present
        rcases TransitionEngine.revisit_eq_ok.mp attempted with ⟨_, _, rfl⟩
        have positive : target.position = 0 := zero
        omega
  · intro meets before isPrefix
    rcases isPrefix with ⟨after, rfl⟩
    have meetsBefore : serviceMachine.Meets RevisitsEarlier .new before := by
      intro event happened
      apply meets event
      rw [Machine.trace_append]
      exact List.mem_append_left _ happened
    exact serviceMachine.history_run phasesEarned_nil
      (fun events current request guard earned => PhasesEarned.next guard earned)
      meetsBefore

end PhaseOrder

/-! ### A revisit forward -/

section Sample

attribute [local instance] referenceRuntime

/-- Revisit the review phase from a fresh session. -/
def sampleRevisit : ServiceRequest :=
  .revisitPhase sampleAmbient
    { sessionId := "00000000-0000-0000-0000-0000000000a1"
      targetPhase := "ReviewAndSignOff" }

/-- The revisit skips four phases: the session is in the review phase and no edge was
approved. -/
theorem not_phasesEarned_of_sampleRevisit :
    ¬∀ before, before <+: [sampleCreate, sampleRevisit] →
      PhasesEarned (serviceMachine.trace .new before) (serviceMachine.run .new before) := by
  intro earned
  obtain ⟨state, found⟩ := Option.isSome_iff_exists.mp
    (show ((serviceMachine.run .new [sampleCreate, sampleRevisit]).sessions
      0xA1).isSome = true by decide)
  have zero := (earned _ (List.prefix_refl _)).position_eq_zero found
  have final : ((serviceMachine.run .new [sampleCreate, sampleRevisit]).sessions 0xA1).map
      (·.currentPhase.position) = some 5 := by decide
  rw [found, Option.map_some, Option.some.injEq] at final
  omega

end Sample

end Chitragupt
