import Chitragupt.StateMachine.Session

/-!
# Upload gates

The gate manager derives four hard gates from five fields of the session.  The
fields are collected in `GateFields`: two sessions that agree on them have the
same gates, whatever else they hold.
-/

namespace Chitragupt

inductive GateType where
  | hard
  | requiredPrompt
  | triggered
  | recommended
  deriving DecidableEq, Repr

structure UploadGate where
  id : String
  gateType : GateType
  description : String
  resolutionPrompt : String
  isOpen : Bool
  deriving DecidableEq, Repr

namespace GateManager

/-- A non-empty regulatory context has been recorded. -/
def isRegulated (state : SessionState) : Bool :=
  (state.regulatoryContext.map fun context => !context.isEmpty).getD false

def brdGate (state : SessionState) : UploadGate where
  id := "GATE-BRD-EXISTS"
  gateType := .hard
  description := "BRD artifact must be generated before sign-off"
  resolutionPrompt := "Generating BRD now — this will take a moment."
  isOpen := state.brdArtifactId.isNone

def hldGate (state : SessionState) : UploadGate where
  id := "GATE-HLD-EXISTS"
  gateType := .hard
  description := "HLD artifact must be generated before sign-off"
  resolutionPrompt := "Generating HLD diagram now — this will take a moment."
  isOpen := state.hldArtifactId.isNone

def clientSignatureGate (state : SessionState) : UploadGate where
  id := "GATE-CLIENT-SIGNATURE"
  gateType := .hard
  description := "Client signature is required before the project is signed off"
  resolutionPrompt :=
    "We're waiting for the client signature. Who at the client side will be signing?"
  isOpen := !state.clientSignatureConfirmed

def regulatedSourceDocGate (state : SessionState) : UploadGate where
  id := "GATE-REGULATED-SOURCE-DOC"
  gateType := .hard
  description := "Regulated domain projects require at least one source document"
  resolutionPrompt :=
    "This is a regulated domain. Please upload at least one reference document before continuing, or confirm an explicit waiver."
  isOpen := isRegulated state && state.documentsIndexed.isEmpty

def allGatesForSession (state : SessionState) : List UploadGate :=
  [brdGate state, hldGate state, clientSignatureGate state, regulatedSourceDocGate state]

def openHardGates (state : SessionState) : List UploadGate :=
  (allGatesForSession state).filter fun gate => gate.gateType == .hard && gate.isOpen

def openGates (state : SessionState) : List UploadGate :=
  (allGatesForSession state).filter (·.isOpen)

/-! ## The fields behind the gates -/

/-- Everything the gates read. -/
structure GateFields where
  brdArtifactId : Option Uuid
  hldArtifactId : Option Uuid
  clientSignatureConfirmed : Bool
  regulatoryContext : Option String
  documentsIndexed : List Uuid
  deriving DecidableEq

/-- The gate fields of a session. -/
def gateFields (state : SessionState) : GateFields where
  brdArtifactId := state.brdArtifactId
  hldArtifactId := state.hldArtifactId
  clientSignatureConfirmed := state.clientSignatureConfirmed
  regulatoryContext := state.regulatoryContext
  documentsIndexed := state.documentsIndexed

theorem openHardGates_congr {left right : SessionState}
    (same : gateFields left = gateFields right) :
    openHardGates left = openHardGates right := by
  simp only [gateFields, GateFields.mk.injEq] at same
  rcases same with ⟨brd, hld, signature, regulatory, documents⟩
  simp only [openHardGates, allGatesForSession, brdGate, hldGate, clientSignatureGate,
    regulatedSourceDocGate, isRegulated, brd, hld, signature, regulatory, documents]

/-- The three gates that stand for the final sign-off are closed. -/
def SignOffComplete (state : SessionState) : Prop :=
  state.brdArtifactId.isSome ∧ state.hldArtifactId.isSome ∧
    state.clientSignatureConfirmed = true

instance (state : SessionState) : Decidable (SignOffComplete state) :=
  inferInstanceAs (Decidable (_ ∧ _ ∧ _))

/-- No gate is open exactly when the sign-off gates and the regulated-domain gate
are all closed. -/
theorem openHardGates_eq_nil {state : SessionState} :
    openHardGates state = [] ↔
      SignOffComplete state ∧ (regulatedSourceDocGate state).isOpen = false := by
  simp only [openHardGates, allGatesForSession, List.filter_eq_nil_iff, List.forall_mem_cons,
    List.not_mem_nil, SignOffComplete]
  simp [brdGate, hldGate, clientSignatureGate, regulatedSourceDocGate,
    Option.isSome_iff_ne_none, and_assoc]

end GateManager

end Chitragupt
