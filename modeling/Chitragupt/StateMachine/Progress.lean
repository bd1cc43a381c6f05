import Chitragupt.StateMachine.Runs

/-!
# Reachable sessions and their phases

No RPC writes a field behind a hard gate, and a fresh session has none of the
artifacts.  Hence every session of every run is blocked, and only a revisit can
change its phase.  The phases of a run are then compared with the forward edges
that its transition requests earned.
-/

namespace Chitragupt

open Machines (Machine Event Store Command)

section Progress

variable [Runtime]

open StateEngineService

/-- A session that no transition request can move. -/
structure Blocked (state : SessionState) : Prop where
  gates : GateManager.openHardGates state ≠ []
  working : state.currentPhase ≠ .signedOff

omit [Runtime] in
theorem Blocked.new (id : Uuid) (now : DateTime) (workspaceId projectId : Uuid) :
    Blocked (.new id now workspaceId projectId) where
  gates := by
    rw [ne_eq, GateManager.openHardGates_eq_nil]
    simp [GateManager.SignOffComplete, SessionState.new]
  working := by simp [SessionState.new]

theorem Blocked.not_approved {state : SessionState} (blocked : Blocked state)
    (request : SessionRequest) :
    (sessionMachine.reply state request).approved = false := by
  rw [Bool.eq_false_iff]
  exact fun approved => blocked.gates (openHardGates_of_approved approved)

/-- A blocked session stays blocked: the gates do not move, and the only phase
changes left are revisits, which never reach the final phase. -/
theorem Blocked.next {state : SessionState} (blocked : Blocked state)
    (request : SessionRequest) : Blocked (sessionMachine.next state request) where
  gates := by
    rw [GateManager.openHardGates_congr (sessionMachine_fixes_gateFields state request)]
    exact blocked.gates
  working := by
    have denied := blocked.not_approved request
    have step := sessionMachine_step state request
    generalize sessionMachine.next state request = after at step ⊢
    generalize sessionMachine.reply state request = reply at step denied
    cases step with
    | turn ambient request _ _ _ =>
        rw [currentPhase_turnResult]
        exact blocked.working
    | approve _ _ _ _ _ approved _ => simp [denied] at approved
    | block _ _ _ _ _ => exact blocked.working
    | refuse _ _ _ _ _ _ => exact blocked.working
    | revisit ambient request target _ _ _ attempted _ _ =>
        rcases TransitionEngine.revisit_eq_ok.mp attempted with ⟨notFinal, _, rfl⟩
        exact notFinal

/-- Every session of every run of the service is blocked. -/
theorem blocked_of_run (requests : List ServiceRequest) :
    (serviceMachine.run .new requests).sessions.All Blocked :=
  all_of_run Blocked.new (fun _ request blocked => blocked.next request) requests

/-- No run of the service approves a transition. -/
theorem not_approved_of_run {requests : List ServiceRequest} {event : ServiceEvent}
    (happened : event ∈ serviceMachine.trace .new requests) :
    event.output.approved = false := by
  rcases (Machine.mem_trace _).mp happened with ⟨earlier, request, later, rfl, rfl⟩
  rw [Bool.eq_false_iff]
  intro approved
  rcases approved_iff.mp approved with ⟨transition, id, state, _, _, present, accepted⟩
  have blocked := blocked_of_run earlier id state present
  simp [blocked.not_approved] at accepted

/-! ## Stuck sessions -/

/-- A turn result or a transition request for the session. -/
def ServiceRequest.Drives (id : Uuid) : ServiceRequest → Prop
  | .applyTurnResult _ request => Runtime.parse request.sessionId = some id
  | .requestTransition request => Runtime.parse request.sessionId = some id
  | _ => False

/-- Some turn results and transition requests for the session get a transition
approved. -/
def CanAdvance (service : StateEngineService) (id : Uuid) : Prop :=
  ∃ requests : List ServiceRequest, (∀ request ∈ requests, request.Drives id) ∧
    ∃ event ∈ serviceMachine.trace service requests, event.output.approved = true

/-- A session that is not signed off can advance. -/
def NotStuck (service : StateEngineService) (id : Uuid) : Prop :=
  ∀ state, service.sessions id = some state → state.currentPhase ≠ .signedOff →
    CanAdvance service id

/-- Whatever follows a run continues it, so nothing is approved. -/
theorem not_canAdvance_of_run (requests : List ServiceRequest) (id : Uuid) :
    ¬CanAdvance (serviceMachine.run .new requests) id := by
  rintro ⟨further, _, event, happened, approved⟩
  have within : event ∈ serviceMachine.trace .new (requests ++ further) := by
    rw [Machine.trace_append]
    exact List.mem_append_right _ happened
  simp [not_approved_of_run within] at approved

/-- Every session that a run of the service holds is permanently stuck. -/
theorem stuck_of_run (requests : List ServiceRequest) (id : Uuid)
    (present : ((serviceMachine.run .new requests).sessions id).isSome) :
    ¬NotStuck (serviceMachine.run .new requests) id := by
  intro notStuck
  rcases Option.isSome_iff_exists.mp present with ⟨state, found⟩
  have working := (blocked_of_run requests id state found).working
  exact not_canAdvance_of_run requests id (notStuck state found working)

end Progress

/-! ### A fresh session -/

/-- The environment of the concrete runs: one time, consecutive identifiers. -/
def sampleAmbient : Ambient where
  now _ := 1700000000000000000
  newV4 drawn := BitVec.ofNat 128 (0xA1 + drawn)

/-- Create one session. -/
def sampleCreate : ServiceRequest :=
  .createSession sampleAmbient
    { workspaceId := "00000000-0000-4000-8000-000000000001"
      projectId := "00000000-0000-4000-8000-000000000002" }

section Sample

attribute [local instance] referenceRuntime

theorem sampleCreate_present :
    ((serviceMachine.run .new [sampleCreate]).sessions 0xA1).isSome = true := by
  decide

theorem stuck_of_sampleCreate :
    ¬NotStuck (serviceMachine.run .new [sampleCreate]) 0xA1 :=
  stuck_of_run [sampleCreate] 0xA1 (by decide)

/-- The freshly created session cannot advance. -/
theorem not_forall_notStuck :
    ¬∀ requests id, NotStuck (serviceMachine.run .new requests) id := by
  intro all
  rcases Option.isSome_iff_exists.mp sampleCreate_present with ⟨state, found⟩
  have working := (blocked_of_run [sampleCreate] 0xA1 state found).working
  exact not_canAdvance_of_run [sampleCreate] 0xA1
    (all [sampleCreate] 0xA1 state found working)

end Sample

end Chitragupt
