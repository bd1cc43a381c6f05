import Mathlib.Order.Basic

/-!
# Session phases

The seven phases of a session, the edges between them and their two textual
forms: the variant name used by JSON and by debug output, and the display name
used on the wire.
-/

namespace Chitragupt

inductive SessionPhase where
  | problemIntake
  | stakeholderDiscovery
  | requirementElicitation
  | constraintCapture
  | architectureAlignment
  | reviewAndSignOff
  | signedOff
  deriving DecidableEq, Repr

namespace SessionPhase

/-- The phases a forward transition may lead to. -/
def validTransitions : SessionPhase → List SessionPhase
  | .problemIntake => [.stakeholderDiscovery]
  | .stakeholderDiscovery => [.requirementElicitation]
  | .requirementElicitation => [.constraintCapture]
  | .constraintCapture => [.architectureAlignment]
  | .architectureAlignment => [.reviewAndSignOff]
  | .reviewAndSignOff => [.signedOff]
  | .signedOff => []

def isTerminal (phase : SessionPhase) : Bool := phase == .signedOff

/-- The text sent over the wire. -/
def displayName : SessionPhase → String
  | .problemIntake => "Problem Intake"
  | .stakeholderDiscovery => "Stakeholder Discovery"
  | .requirementElicitation => "Requirement Elicitation"
  | .constraintCapture => "Constraint Capture"
  | .architectureAlignment => "Architecture Alignment"
  | .reviewAndSignOff => "Review & Sign-Off"
  | .signedOff => "Signed Off"

/-- The variant name, as the derived `Debug` and `Serialize` write it. -/
def variantName : SessionPhase → String
  | .problemIntake => "ProblemIntake"
  | .stakeholderDiscovery => "StakeholderDiscovery"
  | .requirementElicitation => "RequirementElicitation"
  | .constraintCapture => "ConstraintCapture"
  | .architectureAlignment => "ArchitectureAlignment"
  | .reviewAndSignOff => "ReviewAndSignOff"
  | .signedOff => "SignedOff"

/-- Both forms are accepted where a phase is read. -/
def fromStr (text : String) : Except String SessionPhase :=
  match text with
  | "ProblemIntake" | "Problem Intake" => .ok .problemIntake
  | "StakeholderDiscovery" | "Stakeholder Discovery" => .ok .stakeholderDiscovery
  | "RequirementElicitation" | "Requirement Elicitation" => .ok .requirementElicitation
  | "ConstraintCapture" | "Constraint Capture" => .ok .constraintCapture
  | "ArchitectureAlignment" | "Architecture Alignment" => .ok .architectureAlignment
  | "ReviewAndSignOff" | "Review & Sign-Off" => .ok .reviewAndSignOff
  | "SignedOff" | "Signed Off" => .ok .signedOff
  | text => .error s!"unknown phase: {text}"

@[simp] theorem fromStr_displayName (phase : SessionPhase) :
    fromStr phase.displayName = .ok phase := by
  cases phase <;> rfl

@[simp] theorem fromStr_variantName (phase : SessionPhase) :
    fromStr phase.variantName = .ok phase := by
  cases phase <;> rfl

@[simp] theorem isTerminal_iff {phase : SessionPhase} :
    phase.isTerminal = true ↔ phase = .signedOff := by
  simp [isTerminal]

/-! ## The linear order of phases -/

/-- Number of edges between the first phase and this one. -/
def position : SessionPhase → Nat
  | .problemIntake => 0
  | .stakeholderDiscovery => 1
  | .requirementElicitation => 2
  | .constraintCapture => 3
  | .architectureAlignment => 4
  | .reviewAndSignOff => 5
  | .signedOff => 6

theorem position_injective : Function.Injective position := by
  intro left right equal
  cases left <;> cases right <;> first | rfl | simp [position] at equal

/-- Every edge leads to the next phase of the order. -/
theorem position_of_mem_validTransitions {source target : SessionPhase}
    (edge : target ∈ source.validTransitions) :
    target.position = source.position + 1 := by
  cases source <;> simp [validTransitions] at edge <;> subst edge <;> rfl

/-- A phase has at most one outgoing edge. -/
theorem validTransitions_unique {source first second : SessionPhase}
    (left : first ∈ source.validTransitions) (right : second ∈ source.validTransitions) :
    first = second :=
  position_injective
    ((position_of_mem_validTransitions left).trans
      (position_of_mem_validTransitions right).symm)

end SessionPhase

end Chitragupt
