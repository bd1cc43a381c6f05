import Chitragupt.StateMachine.Progress

/-!
# What the sign-off gates guard

The gates for the BRD, the HLD and the client signature are asked about on every
edge, not on the last one only.  They cannot be forged: no request on a session
changes which of them are open.
-/

namespace Chitragupt

open Machines (Machine Event)

/-! ## Transitions before the review -/

namespace SessionState

/-- The session with other sign-off artifacts. -/
def withSignOff (state : SessionState) (brd hld : Option Uuid) (signature : Bool) :
    SessionState :=
  { state with
    brdArtifactId := brd
    hldArtifactId := hld
    clientSignatureConfirmed := signature }

variable {state : SessionState} {brd hld : Option Uuid} {signature : Bool}

@[simp] theorem currentPhase_withSignOff :
    (state.withSignOff brd hld signature).currentPhase = state.currentPhase := rfl

@[simp] theorem regulatedSourceDocGate_withSignOff :
    GateManager.regulatedSourceDocGate (state.withSignOff brd hld signature) =
      GateManager.regulatedSourceDocGate state := rfl

@[simp] theorem signOffComplete_withSignOff :
    GateManager.SignOffComplete (state.withSignOff brd hld signature) ↔
      brd.isSome ∧ hld.isSome ∧ signature = true := Iff.rfl

/-- Before the review no criterion reads the sign-off artifacts. -/
theorem evaluateAc_withSignOff {phase : SessionPhase} (early : phase.position < 5) :
    phase.evaluateAc (state.withSignOff brd hld signature) = phase.evaluateAc state := by
  cases phase with
  | problemIntake | stakeholderDiscovery | requirementElicitation | constraintCapture
    | architectureAlignment => rfl
  | reviewAndSignOff | signedOff => simp [SessionPhase.position] at early

end SessionState

namespace TransitionEngine

/-- The condition under which an edge before the review should be open: the criteria
of the phase are met, and a regulated domain has a source document. -/
def Documented (state : SessionState) : Prop :=
  (state.currentPhase.evaluateAc state).transitionReady = true ∧
    (GateManager.regulatedSourceDocGate state).isOpen = false

/-- On an edge, `attempt` asks for the documented condition and the sign-off. -/
theorem attempt_eq_ok_of_edge {state : SessionState} {target : SessionPhase}
    (edge : target ∈ state.currentPhase.validTransitions) :
    attempt state target = .ok () ↔ GateManager.SignOffComplete state ∧ Documented state := by
  rw [attempt_eq_ok, GateManager.openHardGates_eq_nil, Documented]
  tauto

theorem documented_withSignOff {state : SessionState} (early : state.currentPhase.position < 5)
    (brd hld : Option Uuid) (signature : Bool) :
    Documented (state.withSignOff brd hld signature) ↔ Documented state := by
  rw [Documented, SessionState.currentPhase_withSignOff,
    SessionState.evaluateAc_withSignOff early,
    SessionState.regulatedSourceDocGate_withSignOff, Documented]

/-- Edges before the review.  `attempt` decides by the documented condition exactly when
the sign-off is complete or the condition fails anyway, and the sign-off artifacts are
without influence on the decision exactly when the condition fails. -/
theorem attempt_before_review (state : SessionState) (target : SessionPhase)
    (early : state.currentPhase.position < 5)
    (edge : target ∈ state.currentPhase.validTransitions) :
    ((attempt state target = .ok () ↔ Documented state) ↔
        GateManager.SignOffComplete state ∨ ¬Documented state) ∧
      ((∀ brd hld signature,
          attempt (state.withSignOff brd hld signature) target = .ok () ↔
            attempt state target = .ok ()) ↔
        ¬Documented state) := by
  have decided : ∀ brd hld signature,
      attempt (state.withSignOff brd hld signature) target = .ok () ↔
        (brd.isSome ∧ hld.isSome ∧ signature = true) ∧ Documented state := by
    intro brd hld signature
    rw [attempt_eq_ok_of_edge (by simpa using edge), SessionState.signOffComplete_withSignOff,
      documented_withSignOff early]
  constructor
  · rw [attempt_eq_ok_of_edge edge]
    tauto
  · constructor
    · -- Without artifacts the edge is closed, with all of them it is open.
      intro independent documented
      have without := (independent none none false).trans (independent (some 0) (some 0) true).symm
      rw [decided, decided] at without
      simp [documented] at without
    · intro undocumented brd hld signature
      rw [decided, attempt_eq_ok_of_edge edge]
      simp [undocumented]

end TransitionEngine

/-! ### A fresh session with all criteria of its phase -/

/-- A fresh session whose first six criteria are recorded as met. -/
def sampleIntakeDone : SessionState :=
  { SessionState.new 0xA1 1700000000000000000 1 2 with
    acMet := ["AC-S1-01", "AC-S1-02", "AC-S1-03", "AC-S1-04", "AC-S1-05", "AC-S1-U1"] }

theorem attempt_before_review_sampleIntakeDone :
    ((TransitionEngine.attempt sampleIntakeDone .stakeholderDiscovery = .ok () ↔
          TransitionEngine.Documented sampleIntakeDone) ↔
        GateManager.SignOffComplete sampleIntakeDone ∨
          ¬TransitionEngine.Documented sampleIntakeDone) ∧
      ((∀ brd hld signature,
          TransitionEngine.attempt (sampleIntakeDone.withSignOff brd hld signature)
              .stakeholderDiscovery = .ok () ↔
            TransitionEngine.attempt sampleIntakeDone .stakeholderDiscovery = .ok ()) ↔
        ¬TransitionEngine.Documented sampleIntakeDone) :=
  TransitionEngine.attempt_before_review sampleIntakeDone .stakeholderDiscovery
    (by decide) (by decide)

/-- All criteria are met and the domain is not regulated, but the edge is closed. -/
theorem not_attempt_of_sampleIntakeDone :
    ¬∀ state target, state.currentPhase.position < 5 →
      target ∈ state.currentPhase.validTransitions →
      (TransitionEngine.attempt state target = .ok () ↔
        TransitionEngine.Documented state) := by
  intro all
  have decision := all sampleIntakeDone .stakeholderDiscovery (by decide) (by decide)
  have documented : TransitionEngine.Documented sampleIntakeDone := ⟨by decide, by decide⟩
  have open' := (TransitionEngine.attempt_eq_ok_of_edge (by decide)).mp
    (decision.mpr documented)
  exact absurd open'.1 (by decide)

/-! ## Runs on one session -/

section Runs

variable [Runtime]

/-- A gate behind one of the sign-off fields, or behind the documents of a regulated
domain, is unmet. -/
def MissingSignOff (state : SessionState) : Prop :=
  state.brdArtifactId = none ∨ state.hldArtifactId = none ∨
    state.clientSignatureConfirmed = false ∨
    (GateManager.isRegulated state = true ∧ state.documentsIndexed = [])

omit [Runtime] in
theorem MissingSignOff.openHardGates {state : SessionState} (missing : MissingSignOff state) :
    GateManager.openHardGates state ≠ [] := by
  rw [ne_eq, GateManager.openHardGates_eq_nil]
  rintro ⟨⟨brd, hld, signature⟩, documents⟩
  rcases missing with none | none | unsigned | ⟨regulated, empty⟩
  · simp [none] at brd
  · simp [none] at hld
  · simp [unsigned] at signature
  · simp [GateManager.regulatedSourceDocGate, regulated, empty] at documents

/-- Whatever the requests, the open hard gates stay the same. -/
theorem openHardGates_run (state : SessionState) (requests : List SessionRequest) :
    GateManager.openHardGates (sessionMachine.run state requests) =
      GateManager.openHardGates state :=
  GateManager.openHardGates_congr (sessionMachine_fixes_gateFields.run state requests)

/-- No sequence of requests changes the open hard gates of a session; where a sign-off
field is missing, none of them gets a transition approved. -/
theorem signOff_not_forged (state : SessionState) (requests : List SessionRequest) :
    GateManager.openHardGates (sessionMachine.run state requests) =
        GateManager.openHardGates state ∧
      (MissingSignOff state →
        ∀ event ∈ sessionMachine.trace state requests, event.output.approved = false) := by
  refine ⟨openHardGates_run state requests, fun missing event happened => ?_⟩
  rcases (Machine.mem_trace _).mp happened with ⟨earlier, request, later, rfl, rfl⟩
  rw [Bool.eq_false_iff]
  intro approved
  have closed := openHardGates_of_approved approved
  rw [openHardGates_run] at closed
  exact missing.openHardGates closed

end Runs

/-! ### Criteria of the sign-off recorded as met -/

section Sample

attribute [local instance] referenceRuntime

/-- A session under review without artifacts. -/
def sampleReview : SessionState :=
  { SessionState.new 0xA1 1700000000000000000 1 2 with currentPhase := .reviewAndSignOff }

/-- A turn result that records every criterion of the sign-off as met. -/
def sampleForgery : SessionRequest :=
  .applyTurnResult sampleAmbient
    { sessionId := "00000000-0000-0000-0000-0000000000a1"
      entities := []
      acUpdates :=
        ["AC-S6-01", "AC-S6-02", "AC-S6-03", "AC-S6-04", "AC-S6-05"].map fun id =>
          { criterionId := id, met := true, evidence := "" }
      costUsd := 0
      turnCountDelta := 1 }

/-- Ask for the final phase. -/
def sampleSignOff : SessionRequest :=
  .requestTransition
    { sessionId := "00000000-0000-0000-0000-0000000000a1", targetPhase := "SignedOff" }

theorem signOff_not_forged_sampleReview :
    (sessionMachine.reply (sessionMachine.next sampleReview sampleForgery)
      sampleSignOff).approved = false :=
  (signOff_not_forged sampleReview [sampleForgery, sampleSignOff]).2 (.inl rfl)
    (sessionMachine.event (sessionMachine.next sampleReview sampleForgery) sampleSignOff)
    (List.mem_cons_of_mem _ List.mem_cons_self)

end Sample

end Chitragupt
