import Chitragupt.Lib.Python
import Chitragupt.StateMachine.Session

/-!
# Messages between the services

The protobuf messages of the three services and the JSON form of a session.  The
`state_json` field is represented by what its reader makes of it: the document, the
exception of the decoder, or nothing when it is empty.
-/

namespace Chitragupt

open Python (PyError Json)

/-! ## Common messages -/

structure SessionStateProto where
  sessionId : String
  workspaceId : String
  projectId : String
  currentPhase : String
  turnCount : Int32
  totalCostUsd : ExactFloat
  acMet : List String
  acWaived : List String
  documentsIndexed : List String
  stateJson : Option (Except PyError Json)

structure EntityProto where
  entityType : String
  value : String
  confidence : ExactFloat
  source : String
  sourceChunkIds : List String
  deriving DecidableEq

structure AcUpdateProto where
  criterionId : String
  met : Bool
  evidence : String
  deriving DecidableEq

/-! ## State engine messages -/

structure CreateSessionRequest where
  workspaceId : String
  projectId : String

structure CreateSessionResponse where
  sessionId : String
  currentPhase : String

structure SessionQuery where
  sessionId : String
  workspaceId : String

structure TurnResultRequest where
  sessionId : String
  entities : List EntityProto
  acUpdates : List AcUpdateProto
  costUsd : ExactFloat
  turnCountDelta : Int32

structure TurnResultResponse where
  currentPhase : String
  transitionReady : Bool
  unmetAcCount : Nat

structure TransitionRequest where
  sessionId : String
  targetPhase : String

structure TransitionResponse where
  approved : Bool
  errorMessage : String
  currentPhase : String

structure RevisitRequest where
  sessionId : String
  targetPhase : String

structure RevisitResponse where
  ok : Bool
  errorMessage : String
  currentPhase : String

/-! ## The JSON form of a session -/

section Serialization

variable [Runtime]

def uuidJson (id : Uuid) : Json := .ofString (Runtime.hyphenated id)

def timeJson (time : DateTime) : Json := .ofString (Runtime.rfc3339 time)

def optionJson {α : Type} (json : α → Json) : Option α → Json
  | none => .null
  | some value => json value

def listJson {α : Type} (json : α → Json) (values : List α) : Json :=
  .list (values.map json)

/-- A number, or `null` in place of an infinity or a NaN. -/
def floatJson : ExactFloat → Json
  | .finite value => .float (.finite value)
  | _ => .null

/-- An object with the given fields, in order. -/
def objectJson (fields : List (String × Json)) : Json :=
  .dict (fields.map fun (name, value) => (Text.ofString name, value))

def SessionPhase.toJson (phase : SessionPhase) : Json := .ofString phase.variantName

def Actor.toJson (actor : Actor) : Json :=
  objectJson
    [ ("id", uuidJson actor.id),
      ("name", .ofString actor.name),
      ("role", .ofString actor.role),
      ("is_decision_maker", .bool actor.isDecisionMaker) ]

def RequirementType.toJson : RequirementType → Json
  | .functional => .ofString "Functional"
  | .nonFunctional => .ofString "NonFunctional"
  | .constraint => .ofString "Constraint"

def DraftRequirement.toJson (requirement : DraftRequirement) : Json :=
  objectJson
    [ ("id", .ofString requirement.id),
      ("description", .ofString requirement.description),
      ("actor_id", optionJson uuidJson requirement.actorId),
      ("requirement_type", requirement.requirementType.toJson),
      ("confidence", floatJson requirement.confidence),
      ("source_chunk_ids", listJson uuidJson requirement.sourceChunkIds) ]

def ConstraintType.toJson : ConstraintType → Json
  | .budget => .ofString "Budget"
  | .timeline => .ofString "Timeline"
  | .technology => .ofString "Technology"
  | .regulatory => .ofString "Regulatory"
  | .dataResidency => .ofString "DataResidency"
  | .other => .ofString "Other"

def DraftConstraint.toJson (constraint : DraftConstraint) : Json :=
  objectJson
    [ ("id", .ofString constraint.id),
      ("description", .ofString constraint.description),
      ("constraint_type", constraint.constraintType.toJson) ]

def RevisitRecord.toJson (record : RevisitRecord) : Json :=
  objectJson
    [ ("from_phase", record.fromPhase.toJson),
      ("to_phase", record.toPhase.toJson),
      ("at", timeJson record.at) ]

/-- The fields of the document written by the derived `Serialize`, in order. -/
def SessionState.jsonFields (state : SessionState) : List (String × Json) :=
  [ ("session_id", uuidJson state.sessionId),
    ("workspace_id", uuidJson state.workspaceId),
    ("project_id", uuidJson state.projectId),
    ("current_phase", state.currentPhase.toJson),
    ("created_at", timeJson state.createdAt),
    ("updated_at", timeJson state.updatedAt),
    ("problem_statement", optionJson .ofString state.problemStatement),
    ("business_domain", optionJson .ofString state.businessDomain),
    ("primary_goal", optionJson .ofString state.primaryGoal),
    ("pain_points", listJson .ofString state.painPoints),
    ("scope_boundaries", listJson .ofString state.scopeBoundaries),
    ("actors", listJson Actor.toJson state.actors),
    ("external_systems", listJson .ofString state.externalSystems),
    ("success_definition", optionJson .ofString state.successDefinition),
    ("regulatory_context", optionJson .ofString state.regulatoryContext),
    ("requirements", listJson DraftRequirement.toJson state.requirements),
    ("constraints", listJson DraftConstraint.toJson state.constraints),
    ("assumptions", listJson .ofString state.assumptions),
    ("architecture_approach", optionJson .ofString state.architectureApproach),
    ("deployment_environment", optionJson .ofString state.deploymentEnvironment),
    ("open_questions", listJson .ofString state.openQuestions),
    ("ac_met", listJson .ofString state.acMet),
    ("ac_waived", listJson .ofString state.acWaived),
    ("documents_indexed", listJson uuidJson state.documentsIndexed),
    ("upload_gates_resolved", listJson .ofString state.uploadGatesResolved),
    ("upload_gates_waived", listJson .ofString state.uploadGatesWaived),
    ("brd_artifact_id", optionJson uuidJson state.brdArtifactId),
    ("hld_artifact_id", optionJson uuidJson state.hldArtifactId),
    ("client_signature_confirmed", .bool state.clientSignatureConfirmed),
    ("revisit_target", optionJson SessionPhase.toJson state.revisitTarget),
    ("revisit_history", listJson RevisitRecord.toJson state.revisitHistory),
    ("total_llm_cost_usd", floatJson state.totalLlmCostUsd),
    ("turn_count", .int state.turnCount.toNat) ]

def SessionState.toJson (state : SessionState) : Json := objectJson state.jsonFields

end Serialization

/-! ## A concrete text format

The formats of the two crates, for evaluating the model on concrete requests. -/

namespace ReferenceText

def hexDigit (value : Nat) : Char :=
  Char.ofNat (if value < 10 then 48 + value else 87 + value)

/-- The last `count` hexadecimal digits of a number. -/
def hexDigits (value : Nat) : Nat → List Char
  | 0 => []
  | count + 1 => hexDigits (value / 16) count ++ [hexDigit (value % 16)]

def hexValue (char : Char) : Option Nat :=
  let code := char.toNat
  if 48 ≤ code ∧ code ≤ 57 then some (code - 48)
  else if 97 ≤ code ∧ code ≤ 102 then some (code - 87)
  else if 65 ≤ code ∧ code ≤ 70 then some (code - 55)
  else none

def readHex (digits : List Char) : Option Nat :=
  digits.foldl (fun value digit => do return (← value) * 16 + (← hexValue digit)) (some 0)

def hyphenated (id : Uuid) : String :=
  let digits := hexDigits id.toNat 32
  let group := fun start count => String.ofList ((digits.drop start).take count)
  "-".intercalate [group 0 8, group 8 4, group 12 4, group 16 4, group 20 12]

/-- The simple form has 32 digits; the hyphenated form groups them as 8-4-4-4-12. -/
def parse (text : String) : Option Uuid :=
  let chars := text.toList
  let digits :=
    if chars.length = 36 ∧ ∀ index ∈ [8, 13, 18, 23], chars[index]? = some '-' then
      chars.filter (· != '-')
    else
      chars
  if digits.length = 32 then (readHex digits).map (BitVec.ofNat 128) else none

/-- A number in decimal, filled with zeros to a width. -/
def padded (width value : Nat) : String :=
  let digits := toString value
  String.ofList (List.replicate (width - digits.length) '0') ++ digits

/-- Date and time of day in the proleptic Gregorian calendar; the fraction has
three, six or nine digits, or is left out. -/
def rfc3339 (time : DateTime) : String :=
  let seconds := time / 1000000000
  let nanos := (time % 1000000000).toNat
  let shifted := seconds / 86400 + 719468
  let era := shifted / 146097
  let dayOfEra := shifted % 146097
  let yearOfEra :=
    (dayOfEra - dayOfEra / 1460 + dayOfEra / 36524 - dayOfEra / 146096) / 365
  let dayOfYear := dayOfEra - (365 * yearOfEra + yearOfEra / 4 - yearOfEra / 100)
  let monthIndex := (5 * dayOfYear + 2) / 153
  let day := dayOfYear - (153 * monthIndex + 2) / 5 + 1
  let month := if monthIndex < 10 then monthIndex + 3 else monthIndex - 9
  let year := yearOfEra + era * 400 + if month ≤ 2 then 1 else 0
  let clock := (seconds % 86400).toNat
  let fraction :=
    if nanos = 0 then ""
    else if nanos % 1000000 = 0 then "." ++ padded 3 (nanos / 1000000)
    else if nanos % 1000 = 0 then "." ++ padded 6 (nanos / 1000)
    else "." ++ padded 9 nanos
  padded 4 year.toNat ++ "-" ++ padded 2 month.toNat ++ "-" ++ padded 2 day.toNat ++ "T" ++
    padded 2 (clock / 3600) ++ ":" ++ padded 2 (clock / 60 % 60) ++ ":" ++
    padded 2 (clock % 60) ++ fraction ++ "Z"

end ReferenceText

/-- The formats as they appear on the wire, and sums without rounding. -/
@[reducible] def referenceRuntime : Runtime where
  toFloatRounding := .exact
  parse := ReferenceText.parse
  hyphenated := ReferenceText.hyphenated
  simple id := String.ofList (ReferenceText.hexDigits id.toNat 32)
  rfc3339 := ReferenceText.rfc3339

end Chitragupt
