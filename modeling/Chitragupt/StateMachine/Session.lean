import Chitragupt.Lib.ExactFloat
import Chitragupt.Lib.Ledger
import Chitragupt.Lib.LetterCase
import Chitragupt.StateMachine.Phase

/-!
# Session state

The record kept for one session and the two operations through which the AI
pipeline changes it: an acceptance-criterion update and an extracted entity.

Costs and confidences are not rounded.  Clock readings and random identifiers are
inputs of the operations that draw them.
-/

namespace Chitragupt

/-- A 128-bit identifier. -/
abbrev Uuid := BitVec 128

/-- Nanoseconds since the epoch, in UTC. -/
abbrev DateTime := Int

/-- What is left to the crates and to the machine: the textual forms of identifiers and
times, supplied by `uuid` and `chrono`, and how floats are rounded. -/
class Runtime extends FloatRounding where
  parse : String → Option Uuid
  hyphenated : Uuid → String
  simple : Uuid → String
  rfc3339 : DateTime → String

/-- What the environment supplies while one request is served: successive clock
readings and successive random identifiers. -/
structure Ambient where
  now : Nat → DateTime
  newV4 : Nat → Uuid

inductive StateError where
  | invalidTransition («from» «to» : SessionPhase)
  | hardGateBlocking (gateCount : Nat)
  | acNotMet (unmetCount : Nat)
  | sessionTerminated
  | unknownEntityType (entityType : String)
  deriving DecidableEq, Repr

/-- The message derived by `thiserror`. -/
def StateError.toString : StateError → String
  | .invalidTransition source target =>
      s!"invalid transition: {source.variantName} → {target.variantName}"
  | .hardGateBlocking gateCount =>
      s!"transition blocked by {gateCount} open hard gate(s)"
  | .acNotMet unmetCount =>
      s!"acceptance criteria not met for transition: {unmetCount} criteria unmet"
  | .sessionTerminated => "session already in terminal state"
  | .unknownEntityType entityType => s!"unknown entity type: {entityType}"

/-! ## Supporting types -/

/-- AC status change produced by the AI pipeline. -/
structure AcUpdate where
  criterionId : String
  met : Bool
  evidence : String
  deriving DecidableEq, Repr

/-- Entity extracted from a message; the type is one of `actor`, `requirement`,
`constraint`, `assumption` and `gap`. -/
structure ExtractedEntity where
  entityType : String
  value : String
  confidence : ExactFloat
  source : String
  sourceChunkIds : List Uuid
  deriving DecidableEq

/-- `lower.contains(p)` for one of the patterns `p`. -/
def mentions (lower : Text) (patterns : List String) : Bool :=
  patterns.any fun pattern => lower.contains (.ofString pattern)

/-- `str::trim`. -/
def trim (text : String) : String :=
  String.ofList (Text.trimBy (fun char => Text.isWhiteSpace char.toNat) text.toList)

/-- `str::split_once`: the parts before and after the first separator. -/
def splitOnce (separator : Char) (text : String) : Option (String × String) :=
  match text.toList.span (· != separator) with
  | (_, []) => none
  | (before, _ :: after) => some (String.ofList before, String.ofList after)

structure Actor where
  id : Uuid
  name : String
  role : String
  isDecisionMaker : Bool
  deriving DecidableEq

def Actor.fromEntityValue (id : Uuid) (value : String) : Actor :=
  let lower := Text.lower (.ofString value)
  let isDm := mentions lower
    ["final approver", "decision maker", "decision_maker", "sign-off", "sign off"]
  let (name, role) :=
    match splitOnce ',' value with
    | some (n, r) =>
        let stripped := String.ofList ((trim r).toList.dropWhile (· == '—'))
        (trim n, trim stripped)
    | none => (trim value, "")
  { id, name, role, isDecisionMaker := isDm }

inductive RequirementType where
  | functional
  | nonFunctional
  | constraint
  deriving DecidableEq, Repr

structure DraftRequirement where
  id : String
  description : String
  actorId : Option Uuid
  requirementType : RequirementType
  confidence : ExactFloat
  sourceChunkIds : List Uuid
  deriving DecidableEq

def DraftRequirement.fromEntity [Runtime] (id : Uuid) (entity : ExtractedEntity) :
    DraftRequirement :=
  let lower := Text.lower (.ofString entity.value)
  let reqType :=
    if mentions lower
        ["non_functional", "non-functional", "performance", "response time",
          "availability", "concurrent", "uptime", "sla", "latency"] then
      RequirementType.nonFunctional
    else
      .functional
  { id := "REQ-" ++ Runtime.simple id
    description := entity.value
    actorId := none
    requirementType := reqType
    confidence := entity.confidence
    sourceChunkIds := entity.sourceChunkIds }

inductive ConstraintType where
  | budget
  | timeline
  | technology
  | regulatory
  | dataResidency
  | other
  deriving DecidableEq, Repr

structure DraftConstraint where
  id : String
  description : String
  constraintType : ConstraintType
  deriving DecidableEq

def DraftConstraint.fromEntityValue [Runtime] (id : Uuid) (value : String) :
    DraftConstraint :=
  let lower := Text.lower (.ofString value)
  let constraintType :=
    if mentions lower
        ["timeline", "deadline", "delivery", "q1", "q2", "q3", "q4", "end of"] then
      ConstraintType.timeline
    else if mentions lower ["budget", " £", " $", "cost"] then
      .budget
    else if mentions lower
        ["gdpr", "hipaa", "fca", "regulatory", "compliance", "iso "] then
      .regulatory
    else if mentions lower ["data residency", "sovereignty", "must reside"] then
      .dataResidency
    else if mentions lower
        ["technology", "platform", "stack", "azure", "aws ", "gcp"] then
      .technology
    else
      .other
  { id := "CON-" ++ Runtime.simple id, description := value, constraintType }

/-- One entry in the revisit audit trail. -/
structure RevisitRecord where
  fromPhase : SessionPhase
  toPhase : SessionPhase
  «at» : DateTime
  deriving DecidableEq

/-! ## Session state -/

structure SessionState where
  sessionId : Uuid
  workspaceId : Uuid
  projectId : Uuid
  currentPhase : SessionPhase
  createdAt : DateTime
  updatedAt : DateTime
  problemStatement : Option String
  businessDomain : Option String
  primaryGoal : Option String
  painPoints : List String
  scopeBoundaries : List String
  actors : List Actor
  externalSystems : List String
  successDefinition : Option String
  regulatoryContext : Option String
  requirements : List DraftRequirement
  constraints : List DraftConstraint
  assumptions : List String
  architectureApproach : Option String
  deploymentEnvironment : Option String
  openQuestions : List String
  acMet : List String
  acWaived : List String
  documentsIndexed : List Uuid
  uploadGatesResolved : List String
  uploadGatesWaived : List String
  brdArtifactId : Option Uuid
  hldArtifactId : Option Uuid
  clientSignatureConfirmed : Bool
  revisitTarget : Option SessionPhase
  revisitHistory : List RevisitRecord
  totalLlmCostUsd : ExactFloat
  turnCount : UInt32
  deriving DecidableEq

namespace SessionState

/-- A fresh session in the first phase. -/
def new (sessionId : Uuid) (now : DateTime) (workspaceId projectId : Uuid) :
    SessionState where
  sessionId
  workspaceId
  projectId
  currentPhase := .problemIntake
  createdAt := now
  updatedAt := now
  problemStatement := none
  businessDomain := none
  primaryGoal := none
  painPoints := []
  scopeBoundaries := []
  actors := []
  externalSystems := []
  successDefinition := none
  regulatoryContext := none
  requirements := []
  constraints := []
  assumptions := []
  architectureApproach := none
  deploymentEnvironment := none
  openQuestions := []
  acMet := []
  acWaived := []
  documentsIndexed := []
  uploadGatesResolved := []
  uploadGatesWaived := []
  brdArtifactId := none
  hldArtifactId := none
  clientSignatureConfirmed := false
  revisitTarget := none
  revisitHistory := []
  totalLlmCostUsd := 0
  turnCount := 0

/-- Apply an AC status update from the AI pipeline.  A met criterion joins `acMet`
and leaves `acWaived`; an unmet one leaves `acMet`, its waiver unchanged. -/
def applyAcUpdate (now : DateTime) (update : AcUpdate) (state : SessionState) :
    SessionState :=
  let state :=
    if update.met then
      let acMet :=
        if update.criterionId ∈ state.acMet then state.acMet
        else state.acMet ++ [update.criterionId]
      { state with
        acMet
        acWaived := state.acWaived.filter (· != update.criterionId) }
    else
      { state with acMet := state.acMet.filter (· != update.criterionId) }
  { state with updatedAt := now }

/-- Route an extracted entity to its session field; an unknown type is an error
that leaves the session as it is. -/
def applyEntity [Runtime] (id : Uuid) (now : DateTime) (entity : ExtractedEntity)
    (state : SessionState) : Except StateError SessionState :=
  match entity.entityType with
  | "actor" =>
      .ok { state with
        actors := state.actors ++ [Actor.fromEntityValue id entity.value]
        updatedAt := now }
  | "requirement" =>
      .ok { state with
        requirements := state.requirements ++ [DraftRequirement.fromEntity id entity]
        updatedAt := now }
  | "constraint" =>
      .ok { state with
        constraints :=
          state.constraints ++ [DraftConstraint.fromEntityValue id entity.value]
        updatedAt := now }
  | "assumption" =>
      .ok { state with
        assumptions :=
          if entity.value ∈ state.assumptions then state.assumptions
          else state.assumptions ++ [entity.value]
        updatedAt := now }
  | "gap" =>
      .ok { state with
        openQuestions :=
          if entity.value ∈ state.openQuestions then state.openQuestions
          else state.openQuestions ++ [entity.value]
        updatedAt := now }
  | other => .error (.unknownEntityType other)

/-! ## What the two operations write -/

/-- The session with every field blanked that a pipeline result can write. -/
def withoutTurnFields (state : SessionState) : SessionState :=
  { state with
    actors := []
    requirements := []
    constraints := []
    assumptions := []
    openQuestions := []
    acMet := []
    acWaived := []
    updatedAt := 0
    totalLlmCostUsd := 0
    turnCount := 0 }

/-- The acceptance criteria as a ledger. -/
def ledger (state : SessionState) : Ledger String where
  recorded := state.acMet
  waived := state.acWaived

/-- The collections filled by entities. -/
structure Collections where
  actors : List Actor
  requirements : List DraftRequirement
  constraints : List DraftConstraint
  assumptions : List String
  openQuestions : List String
  deriving DecidableEq

def collections (state : SessionState) : Collections where
  actors := state.actors
  requirements := state.requirements
  constraints := state.constraints
  assumptions := state.assumptions
  openQuestions := state.openQuestions

/-- Number of items collected. -/
def Collections.size (collections : Collections) : Nat :=
  collections.actors.length + collections.requirements.length +
    collections.constraints.length + collections.assumptions.length +
    collections.openQuestions.length

@[simp] theorem withoutTurnFields_applyAcUpdate (now : DateTime) (update : AcUpdate)
    (state : SessionState) :
    (state.applyAcUpdate now update).withoutTurnFields = state.withoutTurnFields := by
  rw [applyAcUpdate]
  cases update.met <;> rfl

@[simp] theorem totalLlmCostUsd_applyAcUpdate (now : DateTime) (update : AcUpdate)
    (state : SessionState) :
    (state.applyAcUpdate now update).totalLlmCostUsd = state.totalLlmCostUsd := by
  rw [applyAcUpdate]
  cases update.met <;> rfl

@[simp] theorem collections_applyAcUpdate (now : DateTime) (update : AcUpdate)
    (state : SessionState) :
    (state.applyAcUpdate now update).collections = state.collections := by
  rw [applyAcUpdate]
  cases update.met <;> rfl

/-- On the ledger, an AC update is the ledger update. -/
@[simp] theorem ledger_applyAcUpdate (now : DateTime) (update : AcUpdate)
    (state : SessionState) :
    (state.applyAcUpdate now update).ledger =
      state.ledger.update update.criterionId update.met := by
  rw [applyAcUpdate, Ledger.update]
  cases update.met <;> rfl

section Entities

variable [Runtime] {id : Uuid} {now : DateTime} {entity : ExtractedEntity}
variable {state after : SessionState}

/-- The entity types that `applyEntity` routes. -/
def knownEntityTypes : List String :=
  ["actor", "requirement", "constraint", "assumption", "gap"]

/-- What an accepted entity does: it extends one collection, or repeats an
assumption or an open question. -/
theorem applyEntity_cases (applied : state.applyEntity id now entity = .ok after) :
    (entity.entityType = "actor" ∧
      after = { state with
        actors := state.actors ++ [Actor.fromEntityValue id entity.value]
        updatedAt := now }) ∨
    (entity.entityType = "requirement" ∧
      after = { state with
        requirements := state.requirements ++ [DraftRequirement.fromEntity id entity]
        updatedAt := now }) ∨
    (entity.entityType = "constraint" ∧
      after = { state with
        constraints := state.constraints ++ [DraftConstraint.fromEntityValue id entity.value]
        updatedAt := now }) ∨
    (entity.entityType = "assumption" ∧ entity.value ∉ state.assumptions ∧
      after = { state with
        assumptions := state.assumptions ++ [entity.value]
        updatedAt := now }) ∨
    (entity.entityType = "gap" ∧ entity.value ∉ state.openQuestions ∧
      after = { state with
        openQuestions := state.openQuestions ++ [entity.value]
        updatedAt := now }) ∨
    ((entity.entityType = "assumption" ∧ entity.value ∈ state.assumptions ∨
        entity.entityType = "gap" ∧ entity.value ∈ state.openQuestions) ∧
      after = { state with updatedAt := now }) := by
  rw [applyEntity] at applied
  split at applied
  next kind =>
    simp only [Except.ok.injEq] at applied
    exact .inl ⟨kind, applied.symm⟩
  next kind =>
    simp only [Except.ok.injEq] at applied
    exact .inr (.inl ⟨kind, applied.symm⟩)
  next kind =>
    simp only [Except.ok.injEq] at applied
    exact .inr (.inr (.inl ⟨kind, applied.symm⟩))
  next kind =>
    simp only [Except.ok.injEq] at applied
    by_cases repeated : entity.value ∈ state.assumptions
    · rw [if_pos repeated] at applied
      exact .inr (.inr (.inr (.inr (.inr ⟨.inl ⟨kind, repeated⟩, applied.symm⟩))))
    · rw [if_neg repeated] at applied
      exact .inr (.inr (.inr (.inl ⟨kind, repeated, applied.symm⟩)))
  next kind =>
    simp only [Except.ok.injEq] at applied
    by_cases repeated : entity.value ∈ state.openQuestions
    · rw [if_pos repeated] at applied
      exact .inr (.inr (.inr (.inr (.inr ⟨.inr ⟨kind, repeated⟩, applied.symm⟩))))
    · rw [if_neg repeated] at applied
      exact .inr (.inr (.inr (.inr (.inl ⟨kind, repeated, applied.symm⟩))))
  next => simp at applied

theorem applyEntity_eq_error_iff :
    (∃ error, state.applyEntity id now entity = .error error) ↔
      entity.entityType ∉ knownEntityTypes := by
  rw [applyEntity]
  split <;> simp_all [knownEntityTypes]

theorem totalLlmCostUsd_applyEntity (applied : state.applyEntity id now entity = .ok after) :
    after.totalLlmCostUsd = state.totalLlmCostUsd := by
  rcases applyEntity_cases applied with
    ⟨_, rfl⟩ | ⟨_, rfl⟩ | ⟨_, rfl⟩ | ⟨_, _, rfl⟩ | ⟨_, _, rfl⟩ | ⟨_, rfl⟩ <;> rfl

theorem withoutTurnFields_applyEntity
    (applied : state.applyEntity id now entity = .ok after) :
    after.withoutTurnFields = state.withoutTurnFields := by
  rcases applyEntity_cases applied with
    ⟨_, rfl⟩ | ⟨_, rfl⟩ | ⟨_, rfl⟩ | ⟨_, _, rfl⟩ | ⟨_, _, rfl⟩ | ⟨_, rfl⟩ <;> rfl

theorem ledger_applyEntity (applied : state.applyEntity id now entity = .ok after) :
    after.ledger = state.ledger := by
  rcases applyEntity_cases applied with
    ⟨_, rfl⟩ | ⟨_, rfl⟩ | ⟨_, rfl⟩ | ⟨_, _, rfl⟩ | ⟨_, _, rfl⟩ | ⟨_, rfl⟩ <;> rfl

/-- Only actor entities add actors. -/
theorem actors_applyEntity (applied : state.applyEntity id now entity = .ok after) :
    after.actors = state.actors ++
      if entity.entityType = "actor" then [Actor.fromEntityValue id entity.value] else [] := by
  rcases applyEntity_cases applied with
    ⟨type, rfl⟩ | ⟨type, rfl⟩ | ⟨type, rfl⟩ | ⟨type, _, rfl⟩ | ⟨type, _, rfl⟩ |
      ⟨⟨type, _⟩ | ⟨type, _⟩, rfl⟩ <;> simp [type]

/-- Only requirement entities add requirements. -/
theorem requirements_applyEntity (applied : state.applyEntity id now entity = .ok after) :
    after.requirements = state.requirements ++
      if entity.entityType = "requirement" then [DraftRequirement.fromEntity id entity]
      else [] := by
  rcases applyEntity_cases applied with
    ⟨type, rfl⟩ | ⟨type, rfl⟩ | ⟨type, rfl⟩ | ⟨type, _, rfl⟩ | ⟨type, _, rfl⟩ |
      ⟨⟨type, _⟩ | ⟨type, _⟩, rfl⟩ <;> simp [type]

/-- An entity that leaves the collections as they are: its type is unknown, or it
repeats an assumption or an open question. -/
def Collections.Idle (collections : Collections) (entityType value : String) : Prop :=
  entityType ∉ knownEntityTypes ∨
    (entityType = "assumption" ∧ value ∈ collections.assumptions) ∨
    (entityType = "gap" ∧ value ∈ collections.openQuestions)

/-- An accepted entity keeps the collections exactly when it is idle; otherwise they
grow. -/
theorem collections_applyEntity (applied : state.applyEntity id now entity = .ok after) :
    (state.collections.Idle entity.entityType entity.value ∧
      after.collections = state.collections) ∨
    (¬state.collections.Idle entity.entityType entity.value ∧
      state.collections.size < after.collections.size) := by
  rcases applyEntity_cases applied with
    ⟨type, rfl⟩ | ⟨type, rfl⟩ | ⟨type, rfl⟩ | ⟨type, fresh, rfl⟩ | ⟨type, fresh, rfl⟩ |
      ⟨repeated, rfl⟩
  case inr.inr.inr.inr.inr => exact .inl ⟨.inr repeated, rfl⟩
  -- In the other cases one collection has a new item.
  all_goals
    right
    constructor
    · simp_all [Collections.Idle, knownEntityTypes, collections]
    · simp only [collections, Collections.size, List.length_append, List.length_singleton]
      omega

end Entities

end SessionState

end Chitragupt
