import Chitragupt.Lib.Python
import Mathlib.Logic.Function.Basic

/-!
# The spend of a session

A tracker holds the spend of one session in memory and adds to a counter in Redis.
A service runs with a working server, with one whose operations fail, or without.
-/

namespace Chitragupt

open Python (PyError)

inductive LLMFeature where
  | intentClassification
  | ragSynthesis
  | visualUnderstanding
  | chunkBoundary
  | chunkMetadata
  | embedding
  | brdGeneration
  | dataTransformation
  | requirementRefinement
  | speechToText
  | imageOcr
  | localization
  deriving DecidableEq, Repr

/-- The value of the string enumeration. -/
def LLMFeature.value : LLMFeature → String
  | .intentClassification => "intent_classification"
  | .ragSynthesis => "rag_synthesis"
  | .visualUnderstanding => "visual_understanding"
  | .chunkBoundary => "chunk_boundary"
  | .chunkMetadata => "chunk_metadata"
  | .embedding => "embedding"
  | .brdGeneration => "brd_generation"
  | .dataTransformation => "data_transformation"
  | .requirementRefinement => "requirement_refinement"
  | .speechToText => "speech_to_text"
  | .imageOcr => "image_ocr"
  | .localization => "localization"

inductive BudgetStage where
  | normal
  | caution
  | critical
  | exhausted
  deriving DecidableEq, Repr

/-- The arithmetic around a counter: the sum that the server makes of a stored number and
an increment, as its decimal text, and the double that `float` reads from such a text. -/
structure CounterArithmetic where
  sum : ExactFloat → ExactFloat → ExactFloat
  read : ExactFloat → ExactFloat

/-- Sums and readings without rounding. -/
def CounterArithmetic.exact : CounterArithmetic where
  sum := letI := FloatRounding.exact; (· + ·)
  read := id

/-- The counters kept in Redis, and the arithmetic of the server. -/
structure Redis where
  counters : Text → Option ExactFloat
  arithmetic : CounterArithmetic

namespace Redis

def empty : Redis where
  counters _ := none
  arithmetic := .exact

/-- `INCRBYFLOAT`; a missing key counts from zero. -/
def incrByFloat (redis : Redis) (key : Text) (amount : ExactFloat) : Redis where
  counters := Function.update redis.counters key
    (some (redis.arithmetic.sum ((redis.counters key).getD 0) amount))
  arithmetic := redis.arithmetic

@[simp] theorem counters_incrByFloat_self (redis : Redis) (key : Text)
    (amount : ExactFloat) :
    (redis.incrByFloat key amount).counters key =
      some (redis.arithmetic.sum ((redis.counters key).getD 0) amount) := by
  simp [incrByFloat]

theorem counters_incrByFloat_of_ne (redis : Redis) (amount : ExactFloat) {key other : Text}
    (different : other ≠ key) :
    (redis.incrByFloat key amount).counters other = redis.counters other := by
  simp [incrByFloat, different]

@[simp] theorem arithmetic_incrByFloat (redis : Redis) (key : Text) (amount : ExactFloat) :
    (redis.incrByFloat key amount).arithmetic = redis.arithmetic := rfl

/-- `GET`, with the number that the reply is read as. -/
def get (redis : Redis) (key : Text) : Option ExactFloat :=
  (redis.counters key).map redis.arithmetic.read

end Redis

/-- The connection a service was given. -/
inductive RedisConnection where
  | absent
  | failing
  | working (redis : Redis)

def budgetKey (sessionId : Text) (workspaceId : Option Text) : Text :=
  let suffix := sessionId ++ .ofString ":total_usd"
  match workspaceId with
  | some (code :: rest) => .ofString "budget:" ++ (code :: rest) ++ .ofString ":" ++ suffix
  | _ => .ofString "budget:" ++ suffix

structure BudgetTracker where
  sessionId : Text
  workspaceId : Option Text
  spentUsd : ExactFloat
  limitUsd : ExactFloat

namespace BudgetTracker

def cautionUsd : ExactFloat := .finite 3

def criticalUsd : ExactFloat := .finite (9 / 2)

def defaultLimitUsd : ExactFloat := .finite 5

/-- The counter of the session. -/
def key (tracker : BudgetTracker) : Text := budgetKey tracker.sessionId tracker.workspaceId

/-- Load the current spend, zero where no counter can be read. -/
def load (sessionId : Text) (connection : RedisConnection) (workspaceId : Option Text) :
    BudgetTracker :=
  let spent :=
    match connection with
    | .working redis => (redis.get (budgetKey sessionId workspaceId)).getD 0
    | _ => 0
  { sessionId, workspaceId, spentUsd := spent, limitUsd := defaultLimitUsd }

def stage (tracker : BudgetTracker) : BudgetStage :=
  if tracker.spentUsd.ge tracker.limitUsd then .exhausted
  else if tracker.spentUsd.ge criticalUsd then .critical
  else if tracker.spentUsd.ge cautionUsd then .caution
  else .normal

def isExhausted (tracker : BudgetTracker) : Bool := tracker.stage == .exhausted

/-- Add to the spend in memory and, where the server answers, to its counter. -/
def record [FloatRounding] (cost : ExactFloat) (tracker : BudgetTracker)
    (connection : RedisConnection) : BudgetTracker × RedisConnection :=
  let connection :=
    match connection with
    | .working redis => .working (redis.incrByFloat tracker.key cost)
    | other => other
  ({ tracker with spentUsd := tracker.spentUsd + cost }, connection)

end BudgetTracker

end Chitragupt
