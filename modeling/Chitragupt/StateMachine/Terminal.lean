import Chitragupt.StateMachine.SignOff

/-!
# Requests on a signed-off session

A signed-off session stays as it is exactly as far as its requests ask for nothing:
the final phase guards forward transitions only, so a revisit moves the session and a
turn result still writes into it.
-/

namespace Chitragupt

open Machines (Machine Event)

/-- The content captured by a session. -/
structure CapturedContent where
  collections : SessionState.Collections
  ledger : Ledger String
  brdArtifactId : Option Uuid
  hldArtifactId : Option Uuid
  clientSignatureConfirmed : Bool
  deriving DecidableEq

def SessionState.capturedContent (state : SessionState) : CapturedContent where
  collections := state.collections
  ledger := state.ledger
  brdArtifactId := state.brdArtifactId
  hldArtifactId := state.hldArtifactId
  clientSignatureConfirmed := state.clientSignatureConfirmed

/-- The content of a session is its collections, its ledger and its sign-off. -/
theorem SessionState.capturedContent_eq {left right : SessionState}
    (gates : GateManager.gateFields left = GateManager.gateFields right) :
    left.capturedContent = right.capturedContent ↔
      left.collections = right.collections ∧ left.ledger = right.ledger := by
  simp only [GateManager.gateFields, GateManager.GateFields.mk.injEq] at gates
  rcases gates with ⟨brd, hld, signature, _, _⟩
  simp [capturedContent, brd, hld, signature]

section Terminal

variable [Runtime]

open StateEngineService

/-- The event leaves a signed-off session signed off and its content as it was, and
confirms no revisit. -/
structure StaysSignedOff (event : SessionEvent) : Prop where
  phase : event.after.currentPhase = .signedOff
  content : event.after.capturedContent = event.before.capturedContent
  refused : event.output.revisited = false

/-- A request that asks for no change: its entities are idle, its criteria updates
satisfy the given condition, its revisit target is not another phase. -/
def Quiet (settled : Ledger String → List (String × Bool) → Prop)
    (state : SessionState) : SessionRequest → Prop
  | .applyTurnResult _ request =>
      (∀ proto ∈ request.entities,
          state.collections.Idle proto.entityType proto.value) ∧
        settled state.ledger (ledgerChanges request.acUpdates)
  | .requestTransition _ => True
  | .revisitPhase _ request =>
      ∀ target, parsePhase request.targetPhase = .ok target → target = .signedOff

/-- A turn result keeps the content exactly when it keeps collections and ledger. -/
theorem capturedContent_turnResult (ambient : Ambient) (request : TurnResultRequest)
    (state : SessionState) :
    (turnResult ambient request state).capturedContent = state.capturedContent ↔
      Quiet (fun ledger changes => ledger.updates changes = ledger) state
        (.applyTurnResult ambient request) := by
  rw [SessionState.capturedContent_eq (gateFields_turnResult ambient request state),
    collections_turnResult, ledger_turnResult, collections_applyEntities_eq_iff, Quiet]

/-- One request on a signed-off session: it stays signed off exactly when the request
asks for no change. -/
theorem staysSignedOff_iff {state : SessionState}
    (final : state.currentPhase = .signedOff) (request : SessionRequest) :
    StaysSignedOff (sessionMachine.event state request) ↔
      Quiet (fun ledger changes => ledger.updates changes = ledger) state request := by
  have step := sessionMachine_step state request
  have event : StaysSignedOff (sessionMachine.event state request) ↔
      (sessionMachine.next state request).currentPhase = .signedOff ∧
        (sessionMachine.next state request).capturedContent = state.capturedContent ∧
        (sessionMachine.reply state request).revisited = false :=
    ⟨fun stays => ⟨stays.phase, stays.content, stays.refused⟩,
      fun parts => ⟨parts.1, parts.2.1, parts.2.2⟩⟩
  rw [event]
  generalize sessionMachine.next state request = after at step ⊢
  generalize sessionMachine.reply state request = reply at step ⊢
  cases step with
  | turn ambient request _ _ refused =>
      rw [currentPhase_turnResult, capturedContent_turnResult]
      simp [final, refused]
  | approve request target _ _ attempted _ _ =>
      -- No edge leaves the final phase.
      have edge := (TransitionEngine.attempt_eq_ok.mp attempted).1
      simp [final, SessionPhase.validTransitions] at edge
  | block request _ _ _ refused => simp [Quiet, final, refused]
  | revisit ambient request target _ _ parsed attempted _ confirmed =>
      have notFinal := (TransitionEngine.revisit_eq_ok.mp attempted).1
      have loud : ¬Quiet (fun ledger changes => ledger.updates changes = ledger) state
          (.revisitPhase ambient request) := fun quiet => notFinal (quiet target parsed)
      simp [confirmed, loud]
  | refuse ambient request _ noRevisit _ refused =>
      refine ⟨fun _ target parsed => ?_, fun _ => ⟨final, rfl, refused⟩⟩
      by_contra notFinal
      exact noRevisit target parsed _
        (TransitionEngine.revisit_eq_ok.mpr ⟨notFinal, final ▸ notFinal, rfl⟩)

omit [Runtime] in
theorem Quiet.mono {settled weaker : Ledger String → List (String × Bool) → Prop}
    (implies : ∀ ledger changes, settled ledger changes → weaker ledger changes)
    {state : SessionState} {request : SessionRequest} (quiet : Quiet settled state request) :
    Quiet weaker state request := by
  cases request with
  | applyTurnResult ambient request => exact ⟨quiet.1, implies _ _ quiet.2⟩
  | requestTransition request => trivial
  | revisitPhase ambient request => exact quiet

/-- A whole run on a signed-off session changes nothing exactly when no request of it
asks for a change. -/
theorem staysSignedOff_trace_iff {state : SessionState}
    (final : state.currentPhase = .signedOff) {requests : List SessionRequest} :
    (∀ event ∈ sessionMachine.trace state requests, StaysSignedOff event) ↔
      sessionMachine.Meets (Quiet fun ledger changes => ledger.updates changes = ledger)
        state requests := by
  induction requests generalizing state with
  | nil => simp [Machine.Meets]
  | cons request requests ih =>
      rw [Machine.trace_cons, List.forall_mem_cons, Machine.meets_cons,
        staysSignedOff_iff final]
      refine and_congr_right fun quiet => ih ?_
      exact ((staysSignedOff_iff final request).mpr quiet).phase

/-- Runs on a signed-off session.  Quiet requests with idle criteria updates leave it
unchanged; and where a run leaves it unchanged, its requests are quiet up to criteria
updates that undo each other within one turn result. -/
theorem staysSignedOff_run (state : SessionState)
    (final : state.currentPhase = .signedOff) (requests : List SessionRequest) :
    (sessionMachine.Meets (Quiet Ledger.Idle) state requests →
        ∀ event ∈ sessionMachine.trace state requests, StaysSignedOff event) ∧
      ((∀ event ∈ sessionMachine.trace state requests, StaysSignedOff event) →
        sessionMachine.Meets (Quiet Ledger.Restored) state requests) := by
  rw [staysSignedOff_trace_iff final]
  constructor
  · intro meets
    exact meets.mono fun _ _ quiet => quiet.mono fun _ _ => Ledger.Idle.updates_eq
  · intro meets
    exact meets.mono fun _ _ quiet => quiet.mono fun _ _ => Ledger.restored_of_updates_eq

end Terminal

/-! ### A signed-off session revisited -/

section Sample

attribute [local instance] referenceRuntime

/-- A signed-off session with both artifacts and the signature. -/
def sampleSignedOff : SessionState :=
  { SessionState.new 0xA1 1700000000000000000 1 2 with
    currentPhase := .signedOff
    brdArtifactId := some 3
    hldArtifactId := some 4
    clientSignatureConfirmed := true }

/-- Revisit the first phase. -/
def sampleReopen : SessionRequest :=
  .revisitPhase sampleAmbient
    { sessionId := "00000000-0000-0000-0000-0000000000a1", targetPhase := "ProblemIntake" }

/-- A turn that brings nothing new: an entity of an unknown type, and the retraction of a
criterion that is not met. -/
def sampleSmallTalk : SessionRequest :=
  .applyTurnResult sampleAmbient
    { sessionId := "00000000-0000-0000-0000-0000000000a1"
      entities :=
        [{ entityType := "mood", value := "Content", confidence := .finite 1,
           source := "conversation", sourceChunkIds := [] }]
      acUpdates := [{ criterionId := "AC-S1-01", met := false, evidence := "withdrawn" }]
      costUsd := .finite (1 / 2)
      turnCountDelta := 1 }

/-- A revisit of the final phase itself. -/
def sampleStay : SessionRequest :=
  .revisitPhase sampleAmbient
    { sessionId := "00000000-0000-0000-0000-0000000000a1", targetPhase := "SignedOff" }

theorem staysSignedOff_run_sampleSignOff :
    (sessionMachine.trace sampleSignedOff
      [sampleSmallTalk, sampleSignOff, sampleStay]).Forall StaysSignedOff := by
  rw [List.forall_iff_forall_mem]
  apply (staysSignedOff_run sampleSignedOff rfl _).1
  rw [Machine.meets_cons, Machine.meets_cons, Machine.meets_cons]
  refine ⟨⟨?_, ?_⟩, trivial, ?_, List.forall_mem_nil _⟩
  · intro proto member
    rw [List.mem_singleton.mp member]
    exact .inl (by decide)
  · refine ⟨List.forall_mem_nil _, List.forall_mem_nil _, fun item _ recorded => ?_⟩
    have member := Ledger.mem_of_lastFlag recorded
    simp [StateEngineService.ledgerChanges] at member
  · intro target parsed
    exact (Except.ok.inj parsed).symm

/-- The revisit moves the session out of the final phase. -/
theorem not_staysSignedOff_of_sampleReopen :
    ¬∀ state requests, state.currentPhase = .signedOff →
      ∀ event ∈ sessionMachine.trace state requests, StaysSignedOff event := by
  intro all
  have stays := all sampleSignedOff [sampleReopen] rfl _ List.mem_cons_self
  have moved : (sessionMachine.next sampleSignedOff sampleReopen).currentPhase =
      .problemIntake := by decide
  have kept : (sessionMachine.next sampleSignedOff sampleReopen).currentPhase = .signedOff :=
    stays.phase
  rw [moved] at kept
  cases kept

end Sample

end Chitragupt
