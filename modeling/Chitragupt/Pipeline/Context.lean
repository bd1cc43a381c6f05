import Chitragupt.Pipeline.Budget
import Chitragupt.Pipeline.Config

/-!
# The context of one turn

The factory resolves a feature and a budget stage to a client; the context carries
the session document, its budget and the configuration through a turn.
-/

namespace Chitragupt

open Python (PyError Json)

/-- The renderings of Python values that are left to the interpreter: `str(value)`
for values other than strings, and `json.dumps` with an optional indentation, which
gives up on values that are nested too deeply. -/
class Rendering where
  str : Json → Text
  dumps : Option Nat → Json → Except PyError Text

/-- `str(value)`. -/
def strOf [Rendering] (value : Json) : Text :=
  match value with
  | .str text => text
  | other => Rendering.str other

namespace ReferenceRendering

/-- The escape of one UTF-16 code unit. -/
def unitEscape (unit : Nat) : Text :=
  let digit := fun power => Nat.digitChar (unit / 16 ^ power % 16)
  .ofString ("\\u" ++ String.ofList [digit 3, digit 2, digit 1, digit 0])

/-- A code point inside a string literal; only printable ASCII stands for itself. -/
def escape (code : Nat) : Text :=
  match [(34, "\\\""), (92, "\\\\"), (10, "\\n"), (13, "\\r"), (9, "\\t"), (12, "\\f"),
      (8, "\\b")].lookup code with
  | some short => .ofString short
  | none =>
      if 32 ≤ code ∧ code < 127 then [code]
      else if code < 0x10000 then unitEscape code
      else
        unitEscape (0xD800 + (code - 0x10000) / 0x400) ++
          unitEscape (0xDC00 + (code - 0x10000) % 0x400)

def quoted (text : Text) : Text := 34 :: text.flatMap escape ++ [34]

/-- The separator in front of an item, with its line break and indentation. -/
def lineBreak (indent : Option Nat) (depth : Nat) : Text :=
  indent.elim [] fun width => 10 :: List.replicate (width * depth) 32

def itemSeparator (indent : Option Nat) (depth : Nat) : Text :=
  indent.elim (.ofString ", ") fun _ => 44 :: lineBreak indent depth

mutual

/-- The text of a value at a depth. -/
def write (indent : Option Nat) (depth : Nat) : Json → Text
  | .null => .ofString "null"
  | .bool value => .ofString (if value then "true" else "false")
  | .int value => .ofString (toString value)
  | .float (.finite value) => .ofString (toString value.num ++ ".0")
  | .float .nan => .ofString "NaN"
  | .float (.infinite negative) => .ofString (if negative then "-Infinity" else "Infinity")
  | .str text => quoted text
  | .list [] => .ofString "[]"
  | .list (item :: items) =>
      91 :: lineBreak indent (depth + 1) ++ write indent (depth + 1) item ++
        writeItems indent (depth + 1) items ++ lineBreak indent depth ++ [93]
  | .dict [] => .ofString "\x7b\x7d"
  | .dict ((key, value) :: entries) =>
      123 :: lineBreak indent (depth + 1) ++ quoted key ++ Text.ofString ": " ++
        write indent (depth + 1) value ++ writeEntries indent (depth + 1) entries ++
        lineBreak indent depth ++ [125]

def writeItems (indent : Option Nat) (depth : Nat) : List Json → Text
  | [] => []
  | item :: items =>
      itemSeparator indent depth ++ write indent depth item ++ writeItems indent depth items

def writeEntries (indent : Option Nat) (depth : Nat) : List (Text × Json) → Text
  | [] => []
  | (key, value) :: entries =>
      itemSeparator indent depth ++ quoted key ++ Text.ofString ": " ++
        write indent depth value ++ writeEntries indent depth entries

end

end ReferenceRendering

/-- The renderings of scalars and of documents without fractional numbers, for
evaluating the model on concrete turns. -/
@[reducible] def referenceRendering : Rendering where
  str value :=
    match value with
    | .null => .ofString "None"
    | .bool flag => .ofString (if flag then "True" else "False")
    | other => ReferenceRendering.write none 0 other
  dumps indent value := .ok (ReferenceRendering.write indent 0 value)

/-! ## Clients -/

/-- The SDK clients. -/
inductive LLMClient where
  | openrouter
  | voyage
  deriving DecidableEq, Repr

/-- What decides whether a client can be had: the circuit breaker of each provider
and the outcome of constructing the SDK clients. -/
structure Providers where
  degraded : String → Bool
  openrouter : Except PyError Unit
  voyage : Except PyError Unit

namespace LLMFactory

/-- Tier overrides by feature and stage; none keeps the configured tier. -/
def budgetOverrides : List ((LLMFeature × BudgetStage) × Option String) :=
  [ ((.brdGeneration, .caution), some "standard"),
    ((.requirementRefinement, .caution), none),
    ((.brdGeneration, .critical), some "standard"),
    ((.requirementRefinement, .critical), some "fast"),
    ((.ragSynthesis, .critical), some "fast"),
    ((.visualUnderstanding, .critical), some "fast"),
    ((.imageOcr, .critical), some "fast") ]

/-- The configured tier of a feature. -/
def configuredTier (map : FunctionModelMap) : LLMFeature → String
  | .intentClassification => map.intentClassification
  | .ragSynthesis => map.ragSynthesis
  | .visualUnderstanding => map.visualUnderstanding
  | .chunkBoundary => map.chunkBoundary
  | .chunkMetadata => map.chunkMetadata
  | .embedding => map.embedding
  | .brdGeneration => map.brdGeneration
  | .dataTransformation => map.dataTransformation
  | .requirementRefinement => map.requirementRefinement
  | .speechToText => map.speechToText
  | .imageOcr => map.imageOcr
  | .localization => map.localization

def resolveTier (feature : LLMFeature) (stage : BudgetStage) (config : OrchestrationConfig) :
    String :=
  match budgetOverrides.lookup (feature, stage) with
  | some (some tier) => tier
  | _ => configuredTier config.models.functionMap feature

def providerForTier (tier : String) : String :=
  if tier = "embedding" then "voyage"
  else if tier = "stt" then "openai"
  else "anthropic"

/-- The fallback when the primary provider is degraded. -/
def fallbackTierAndProvider (tier : String) : String × String :=
  if tier = "embedding" then ("embedding_fallback", "openai")
  else if tier = "stt" then ("stt_fallback", "google")
  else (tier ++ "_fallback", "google")

def buildClient (providers : Providers) (provider : String) : Except PyError LLMClient :=
  match provider with
  | "anthropic" | "openai" => providers.openrouter.map fun _ => .openrouter
  | "voyage" => providers.voyage.map fun _ => .voyage
  | "google" => .error ⟨.notImplementedError, "Google fallback client not yet wired"⟩
  | other => .error (.valueError s!"Unknown provider: {other}")

def budgetExhaustedError (message : String) : PyError :=
  ⟨.other "BudgetExhaustedError", message⟩

def create (providers : Providers) (feature : LLMFeature) (stage : BudgetStage)
    (config : OrchestrationConfig) : Except PyError LLMClient :=
  if stage = .exhausted then
    .error (budgetExhaustedError s!"Session budget exhausted — cannot call {feature.value}")
  else
    let tier := resolveTier feature stage config
    let provider := providerForTier tier
    let provider :=
      if providers.degraded provider then (fallbackTierAndProvider tier).2 else provider
    buildClient providers provider

end LLMFactory

/-! ## The context -/

structure SessionLLMContext where
  sessionState : Json
  budget : BudgetTracker
  config : OrchestrationConfig

/-- `session_state.get(name, default)`, or the attribute of a document that is no
object, which has none. -/
def getField (session : Json) (name : String) (default : Json) : Json :=
  match session with
  | .dict entries => (entries.lookup (.ofString name)).getD default
  | _ => default

/-- The phase named by a session document. -/
def phaseOf (session : Json) : Json :=
  getField session "current_phase" (.ofString "ProblemIntake")

namespace SessionLLMContext

/-- The client of a feature.  Each feature is asked for once in a turn, so its slot
is empty and the client is constructed. -/
def get (providers : Providers) (context : SessionLLMContext) (feature : LLMFeature) :
    Except PyError LLMClient :=
  let stage := context.budget.stage
  if stage = .exhausted then
    .error (LLMFactory.budgetExhaustedError
      s!"Cannot call {feature.value} — session budget exhausted")
  else
    LLMFactory.create providers feature stage context.config

def currentPhase (context : SessionLLMContext) : Json := phaseOf context.sessionState

end SessionLLMContext

/-- A field of the session document as text. -/
def sessionText [Rendering] (session : Json) (key : String) : Text :=
  strOf (getField session key (.ofString ""))

/-- A fresh context for one turn, with the spend loaded from Redis. -/
def SessionLLMContext.forTurn [Rendering] (config : OrchestrationConfig)
    (connection : RedisConnection) (session : Json) : SessionLLMContext :=
  let sessionId :=
    match sessionText session "session_id" with
    | [] => .ofString "unknown"
    | id => id
  let workspaceId :=
    match sessionText session "workspace_id" with
    | [] => none
    | id => some id
  { sessionState := session
    budget := .load sessionId connection workspaceId
    config }

end Chitragupt
