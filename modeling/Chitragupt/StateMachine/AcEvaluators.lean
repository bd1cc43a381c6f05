import Mathlib.Data.List.Nodup
import Chitragupt.StateMachine.AcResult
import Chitragupt.StateMachine.Session

/-!
# The acceptance criteria of the six working phases

One list of checks for each phase, in the order in which the evaluators ask.
-/

namespace Chitragupt

/-- Problem definition and intent ingestion. -/
def s1.checks (state : SessionState) : List AcCheck :=
  [ ⟨"AC-S1-01",
      "Problem statement captured (min 50 words)",
      "Can you describe the business problem you're trying to solve in a few sentences?",
      state.problemStatement.isSome⟩,
    ⟨"AC-S1-02",
      "Business domain identified",
      "What industry or business domain does this project operate in?",
      state.businessDomain.isSome⟩,
    ⟨"AC-S1-03",
      "Primary goal articulated",
      "What is the single most important outcome this project needs to achieve?",
      state.primaryGoal.isSome⟩,
    ⟨"AC-S1-04",
      "At least one pain point captured",
      "What is the biggest pain point the current process has that this system will fix?",
      !state.painPoints.isEmpty⟩,
    ⟨"AC-S1-05",
      "Scope boundary stated (in-scope or out-of-scope)",
      "Are there things you already know are explicitly out of scope for this project?",
      !state.scopeBoundaries.isEmpty⟩,
    ⟨"AC-S1-U1",
      "Optional: existing system documentation or brief uploaded",
      "Do you have any existing documentation — a brief, a deck, or previous specs — you'd like to share?",
      !state.documentsIndexed.isEmpty⟩ ]

def s1.evaluate (state : SessionState) : AcResult :=
  .fromChecks (s1.checks state) state.acMet state.acWaived

/-- The stakeholder map. -/
def s2.checks (state : SessionState) : List AcCheck :=
  [ ⟨"AC-S2-01",
      "At least two named actors identified",
      "Who are the main types of users that will interact with this system?",
      decide (2 ≤ state.actors.length)⟩,
    ⟨"AC-S2-02",
      "Primary decision-maker identified",
      "Who is the single most important stakeholder that will sign off on this project?",
      state.actors.any (·.isDecisionMaker)⟩,
    ⟨"AC-S2-03",
      "At least one external system or integration identified",
      "Does this system need to connect with any existing tools, databases, or external services?",
      !state.externalSystems.isEmpty⟩,
    ⟨"AC-S2-04",
      "Success definition from stakeholder perspective captured",
      "How will the client or key stakeholder know this project has been successful?",
      state.successDefinition.isSome⟩,
    ⟨"AC-S2-05",
      "Regulatory or compliance context noted (or explicitly none)",
      "Are there any regulatory, legal, or compliance requirements we need to be aware of?",
      state.regulatoryContext.isSome⟩,
    ⟨"AC-S2-U1",
      "Optional: org chart, stakeholder map, or RACI uploaded",
      "Do you have a stakeholder map, org chart, or RACI matrix you'd like to upload?",
      !state.documentsIndexed.isEmpty⟩ ]

def s2.evaluate (state : SessionState) : AcResult :=
  .fromChecks (s2.checks state) state.acMet state.acWaived

/-- Functional and non-functional requirements. -/
def s3.checks (state : SessionState) : List AcCheck :=
  let functionalCount :=
    (state.requirements.filter (·.requirementType == .functional)).length
  let hasNonfunctional :=
    state.requirements.any (·.requirementType == .nonFunctional)
  let allLinked :=
    !state.requirements.isEmpty && state.requirements.all (·.actorId.isSome)
  -- An explicit waiver counts as met here, though not for the hard gate.
  let regulatedGateMet :=
    !state.documentsIndexed.isEmpty || state.acWaived.any (· == "AC-S3-U1")
  [ ⟨"AC-S3-01",
      "Minimum five functional requirements captured",
      "Let's keep going — what else does the system need to do? Walk me through a typical user workflow.",
      decide (5 ≤ functionalCount)⟩,
    ⟨"AC-S3-02",
      "At least one non-functional requirement captured (performance, security, availability)",
      "Are there any performance or reliability targets — like response times, uptime SLAs, or concurrent user counts?",
      hasNonfunctional⟩,
    ⟨"AC-S3-03",
      "Each requirement linked to at least one actor",
      "Who specifically needs this feature — which user role does it serve?",
      allLinked⟩,
    ⟨"AC-S3-04",
      "No unresolved requirement conflicts flagged as open",
      "Earlier we noted a potential conflict between two requirements — has that been resolved?",
      false⟩,
    ⟨"AC-S3-05",
      "At least one acceptance criterion written for the top-priority requirement",
      "For the most critical requirement, how would you test that it works correctly?",
      false⟩,
    ⟨"AC-S3-U1",
      "HARD GATE if regulated domain: at least one source document uploaded",
      "This is a regulated domain project. Please upload at least one reference document before we continue.",
      regulatedGateMet⟩,
    ⟨"AC-S3-U2",
      "Optional: existing requirements doc, user stories, or process flow uploaded",
      "Do you have existing user stories, process flow diagrams, or a requirements document to share?",
      !state.documentsIndexed.isEmpty⟩ ]

def s3.evaluate (state : SessionState) : AcResult :=
  .fromChecks (s3.checks state) state.acMet state.acWaived

/-- Constraints and key assumptions. -/
def s4.checks (state : SessionState) : List AcCheck :=
  let hasBudget := state.constraints.any (·.constraintType == .budget)
  let hasTimeline := state.constraints.any (·.constraintType == .timeline)
  let hasTech := state.constraints.any (·.constraintType == .technology)
  let hasDataResidency := state.constraints.any (·.constraintType == .dataResidency)
  [ ⟨"AC-S4-01",
      "Budget envelope captured (or explicitly deferred)",
      "Is there a budget range or ceiling for this project, or is that still being determined?",
      hasBudget⟩,
    ⟨"AC-S4-02",
      "Timeline or delivery deadline captured",
      "Is there a target delivery date or deadline we're working towards?",
      hasTimeline⟩,
    ⟨"AC-S4-03",
      "Technology constraints noted (mandated stack, forbidden tools)",
      "Are there any technology constraints — platforms the client requires, or tools that are off-limits?",
      hasTech⟩,
    ⟨"AC-S4-04",
      "Data residency or sovereignty constraints noted (or none)",
      "Where does the data need to be stored — are there geographic or data sovereignty requirements?",
      hasDataResidency⟩,
    ⟨"AC-S4-05",
      "Key assumptions listed and BA-confirmed",
      "Let me read back the assumptions we've been working from — do these look correct?",
      !state.assumptions.isEmpty⟩,
    ⟨"AC-S4-U1",
      "HARD GATE if existing system: architecture doc or system diagram uploaded",
      "Since this builds on an existing system, please upload the current architecture diagram before we continue.",
      !state.documentsIndexed.isEmpty⟩,
    ⟨"AC-S4-U2",
      "Optional: contract terms, SLA docs, or compliance certification uploaded",
      "Do you have any contract terms, SLA documents, or compliance certifications to share?",
      !state.documentsIndexed.isEmpty⟩ ]

def s4.evaluate (state : SessionState) : AcResult :=
  .fromChecks (s4.checks state) state.acMet state.acWaived

/-- Architecture decisions.  Two criteria have no field and need an explicit update. -/
def s5.checks (state : SessionState) : List AcCheck :=
  [ ⟨"AC-S5-01",
      "High-level architecture approach agreed (monolith / microservices / serverless / hybrid)",
      "What is the preferred architectural style — monolith, microservices, serverless, or a hybrid?",
      state.architectureApproach.isSome⟩,
    ⟨"AC-S5-02",
      "Deployment environment decided (cloud provider / on-premise / hybrid)",
      "Where will this system be deployed — which cloud provider, or is on-premise required?",
      state.deploymentEnvironment.isSome⟩,
    ⟨"AC-S5-03",
      "Integration points mapped to concrete systems",
      "For each integration we identified, do we know the specific system name and access method?",
      !state.externalSystems.isEmpty⟩,
    ⟨"AC-S5-04",
      "Data model reviewed at entity level",
      "Are there key data entities we haven't discussed yet — things the system needs to store or track?",
      false⟩,
    ⟨"AC-S5-05",
      "No HARD GATE upload requirements outstanding",
      "We still have required documents pending — let's resolve those before generating the BRD.",
      false⟩,
    ⟨"AC-S5-U1",
      "REQUIRED PROMPT: HLD draft generated and BA-reviewed",
      "I've generated a draft High-Level Architecture diagram. Does this look correct before we finalize?",
      false⟩,
    ⟨"AC-S5-U2",
      "Optional: third-party API documentation or integration specs uploaded",
      "Do you have API documentation or integration specs for the external systems we've identified?",
      !state.documentsIndexed.isEmpty⟩ ]

def s5.evaluate (state : SessionState) : AcResult :=
  .fromChecks (s5.checks state) state.acMet state.acWaived

/-- Artifacts, client signature and final review. -/
def s6.checks (state : SessionState) : List AcCheck :=
  [ ⟨"AC-S6-01",
      "HARD GATE: BRD artifact generated and stored",
      "The BRD has not been generated yet. Generating it now before we can proceed to sign-off.",
      state.brdArtifactId.isSome⟩,
    ⟨"AC-S6-02",
      "HARD GATE: HLD artifact generated and stored",
      "The High-Level Architecture Diagram has not been generated. Generating it now.",
      state.hldArtifactId.isSome⟩,
    ⟨"AC-S6-03",
      "HARD GATE: Client signature received on BRD",
      "We're waiting for the client signature. Who at the client side will be signing — and have they received the document?",
      state.clientSignatureConfirmed⟩,
    ⟨"AC-S6-04",
      "BA has reviewed all SYNTHESIZED and INFERRED items in the BRD",
      "There are flagged items in the BRD that need your review before it can be signed off.",
      false⟩,
    ⟨"AC-S6-05",
      "All open conflicts resolved or explicitly deferred with BA justification",
      "There are unresolved conflicts in the requirements. Let's work through each one.",
      false⟩,
    ⟨"AC-S6-U1",
      "HARD GATE: Signed BRD document uploaded or e-signature confirmed",
      "Please upload the signed BRD or confirm that the e-signature has been completed.",
      state.clientSignatureConfirmed⟩ ]

def s6.evaluate (state : SessionState) : AcResult :=
  .fromChecks (s6.checks state) state.acMet state.acWaived

/-- The checks of a phase; the terminal phase has none. -/
def SessionPhase.checks (phase : SessionPhase) (state : SessionState) : List AcCheck :=
  match phase with
  | .problemIntake => s1.checks state
  | .stakeholderDiscovery => s2.checks state
  | .requirementElicitation => s3.checks state
  | .constraintCapture => s4.checks state
  | .architectureAlignment => s5.checks state
  | .reviewAndSignOff => s6.checks state
  | .signedOff => []

def SessionPhase.evaluateAc (phase : SessionPhase) (state : SessionState) : AcResult :=
  match phase with
  | .problemIntake => s1.evaluate state
  | .stakeholderDiscovery => s2.evaluate state
  | .requirementElicitation => s3.evaluate state
  | .constraintCapture => s4.evaluate state
  | .architectureAlignment => s5.evaluate state
  | .reviewAndSignOff => s6.evaluate state
  | .signedOff => { criteria := [], gaps := [], transitionReady := false }

theorem SessionPhase.evaluateAc_eq {phase : SessionPhase} (working : phase ≠ .signedOff)
    (state : SessionState) :
    phase.evaluateAc state =
      .fromChecks (phase.checks state) state.acMet state.acWaived := by
  cases phase <;> first | rfl | exact absurd rfl working

/-- The ids of the criteria of a phase, in order. -/
def SessionPhase.criterionIds : SessionPhase → List String
  | .problemIntake =>
      ["AC-S1-01", "AC-S1-02", "AC-S1-03", "AC-S1-04", "AC-S1-05", "AC-S1-U1"]
  | .stakeholderDiscovery =>
      ["AC-S2-01", "AC-S2-02", "AC-S2-03", "AC-S2-04", "AC-S2-05", "AC-S2-U1"]
  | .requirementElicitation =>
      ["AC-S3-01", "AC-S3-02", "AC-S3-03", "AC-S3-04", "AC-S3-05", "AC-S3-U1", "AC-S3-U2"]
  | .constraintCapture =>
      ["AC-S4-01", "AC-S4-02", "AC-S4-03", "AC-S4-04", "AC-S4-05", "AC-S4-U1", "AC-S4-U2"]
  | .architectureAlignment =>
      ["AC-S5-01", "AC-S5-02", "AC-S5-03", "AC-S5-04", "AC-S5-05", "AC-S5-U1", "AC-S5-U2"]
  | .reviewAndSignOff =>
      ["AC-S6-01", "AC-S6-02", "AC-S6-03", "AC-S6-04", "AC-S6-05", "AC-S6-U1"]
  | .signedOff => []

theorem SessionPhase.map_id_checks (phase : SessionPhase) (state : SessionState) :
    (phase.checks state).map (·.id) = phase.criterionIds := by
  cases phase <;> rfl

theorem SessionPhase.nodup_criterionIds (phase : SessionPhase) :
    phase.criterionIds.Nodup := by
  cases phase <;> decide

/-- Two checks of a phase with the same id are the same check. -/
theorem SessionPhase.eq_of_id_eq {phase : SessionPhase} {state : SessionState}
    {left right : AcCheck} (first : left ∈ phase.checks state)
    (second : right ∈ phase.checks state) (same : left.id = right.id) : left = right := by
  have distinct : ((phase.checks state).map (·.id)).Nodup := by
    rw [map_id_checks]
    exact phase.nodup_criterionIds
  exact List.inj_on_of_nodup_map distinct first second same

/-- A working phase is ready when every criterion without a `-U` is met or waived. -/
theorem SessionPhase.evaluateAc_ready_iff {phase : SessionPhase}
    (working : phase ≠ .signedOff) (state : SessionState) :
    (phase.evaluateAc state).transitionReady = true ↔
      ∀ check ∈ phase.checks state, isOptional check.id = true ∨
        check.fieldMet = true ∨ check.id ∈ state.acMet ∨ check.id ∈ state.acWaived := by
  rw [evaluateAc_eq working, AcResult.fromChecks_ready_iff]
  refine forall₂_congr fun check _ => or_congr_right ?_
  rw [ne_eq, AcCheck.status_eq_unmet]
  simp only [not_and_or, not_not, Bool.not_eq_false]

end Chitragupt
