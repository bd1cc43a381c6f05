import Chitragupt.Lib.RunningTotal
import Chitragupt.Pipeline.Executor
import Chitragupt.Pipeline.SessionDocument
import Chitragupt.StateMachine.Service
import Mathlib.Data.NNRat.Defs
import Mathlib.Tactic.NormNum

/-!
# The cost of a session

A turn starts from the spend that Redis has for its session, records its own costs and
reports the spend at its end.  The state engine adds the report to the total of the
session.  So a report is a running total, and the total of the session a sum of those,
where neither memory nor the server rounds.
-/

namespace Chitragupt

open Machines (Machine)
open RunningTotal (totals)

/-- One turn as the accounts see it: the costs it records, the final state of its graph,
and what is sent to the state engine besides the cost. -/
structure AccountedTurn where
  costs : List ℚ≥0
  final : PipelineState
  ambient : Ambient
  entities : List EntityProto
  acUpdates : List AcUpdateProto

/-- The sum of the costs of a turn. -/
def AccountedTurn.cost (turn : AccountedTurn) : ℚ := (turn.costs.map NNRat.cast).sum

/-- The two places that keep the cost of a session. -/
structure Books where
  session : SessionState
  redis : RedisConnection

namespace BudgetTracker

variable [FloatRounding]

/-- Record costs one after the other. -/
def recordAll : List ℚ≥0 → BudgetTracker → RedisConnection → BudgetTracker × RedisConnection
  | [], tracker, connection => (tracker, connection)
  | cost :: costs, tracker, connection =>
      let (tracker, connection) := tracker.record (.finite cost) connection
      recordAll costs tracker connection

/-- With a working server and exact sums, memory and counter both grow by the costs. -/
theorem recordAll_working (exact : FloatRounding.ExactSums) (costs : List ℚ≥0)
    (tracker : BudgetTracker) (redis : Redis) {spent counted : ℚ}
    (memory : tracker.spentUsd = .finite spent)
    (counter : (redis.counters tracker.key).getD 0 = .finite counted)
    (server : redis.arithmetic = .exact) :
    ∃ after, recordAll costs tracker (.working redis) =
        ({ tracker with spentUsd := .finite (spent + (costs.map NNRat.cast).sum) },
          .working after) ∧
      (after.counters tracker.key).getD 0 =
        .finite (counted + (costs.map NNRat.cast).sum) ∧
      after.arithmetic = .exact := by
  induction costs generalizing tracker redis spent counted with
  | nil =>
      refine ⟨redis, ?_, ?_, server⟩
      · rw [List.map_nil, List.sum_nil, add_zero, ← memory]
        rfl
      · rw [List.map_nil, List.sum_nil, add_zero, counter]
  | cons cost costs ih =>
      have recorded : tracker.record (.finite cost) (.working redis) =
          ({ tracker with spentUsd := .finite (spent + cost) },
            .working (redis.incrByFloat tracker.key (.finite cost))) := by
        rw [record, memory, ExactFloat.finite_add exact]
      have grown : ((redis.incrByFloat tracker.key (.finite cost)).counters
          tracker.key).getD 0 = .finite (counted + cost) := by
        rw [Redis.counters_incrByFloat_self, Option.getD_some, counter, server]
        rfl
      obtain ⟨after, others, total, still⟩ :=
        ih { tracker with spentUsd := .finite (spent + cost) } _ rfl grown server
      refine ⟨after, ?_, ?_, still⟩
      · rw [recordAll, recorded]
        dsimp only
        rw [others, List.map_cons, List.sum_cons, add_assoc]
      · rw [List.map_cons, List.sum_cons, ← add_assoc]
        exact total

end BudgetTracker

/-! ## Turns -/

section Turns

variable [Runtime] [Rendering] (config : OrchestrationConfig)

/-- The counter of a session in Redis. -/
def sessionKey (session : SessionState) : Text :=
  (SessionLLMContext.forTurn config .absent session.toJson).budget.key

/-- One turn: the context is made for it, the costs are recorded, and the spend of the
context reaches the state engine as the cost of the turn. -/
def takeTurn (books : Books) (turn : AccountedTurn) : Books × ExactFloat :=
  let context := SessionLLMContext.forTurn config books.redis books.session.toJson
  let (budget, redis) := BudgetTracker.recordAll turn.costs context.budget books.redis
  let result := TurnResult.ofState { context with budget } turn.final
  let request : TurnResultRequest :=
    { sessionId := Runtime.hyphenated books.session.sessionId
      entities := turn.entities
      acUpdates := turn.acUpdates
      costUsd := result.costUsd
      turnCountDelta := 1 }
  ({ session := StateEngineService.turnResult turn.ambient request books.session, redis },
    result.costUsd)

theorem sessionText_sessionId (session : SessionState) :
    sessionText session.toJson "session_id" =
      .ofString (Runtime.hyphenated session.sessionId) := by
  have field : getField session.toJson "session_id" (.ofString "") =
      uuidJson session.sessionId :=
    session.getField_toJson _ (by simp [SessionState.jsonFields])
  rw [sessionText, field]
  rfl

theorem sessionText_workspaceId (session : SessionState) :
    sessionText session.toJson "workspace_id" =
      .ofString (Runtime.hyphenated session.workspaceId) := by
  have field : getField session.toJson "workspace_id" (.ofString "") =
      uuidJson session.workspaceId :=
    session.getField_toJson _ (by simp [SessionState.jsonFields])
  rw [sessionText, field]
  rfl

/-- The counter belongs to the identifiers of the session, which a turn keeps. -/
theorem sessionKey_turnResult (ambient : Ambient) (request : TurnResultRequest)
    (session : SessionState) :
    sessionKey config (StateEngineService.turnResult ambient request session) =
      sessionKey config session := by
  have frame := StateEngineService.withoutTurnFields_turnResult ambient request session
  have sessionId : (StateEngineService.turnResult ambient request session).sessionId =
      session.sessionId := by
    have same := congrArg SessionState.sessionId frame
    exact same
  have workspaceId : (StateEngineService.turnResult ambient request session).workspaceId =
      session.workspaceId := by
    have same := congrArg SessionState.workspaceId frame
    exact same
  unfold sessionKey SessionLLMContext.forTurn
  simp only [sessionText_sessionId, sessionText_workspaceId, sessionId, workspaceId]

def costMachine : Machine Books AccountedTurn ExactFloat := ⟨takeTurn config⟩

/-- What the accounts hold: the counter of the session and its total. -/
structure Balanced (books : Books) (key : Text) (counted total : ℚ) : Prop where
  keyed : sessionKey config books.session = key
  counter : ∃ redis, books.redis = .working redis ∧
    (redis.counters key).getD 0 = .finite counted ∧ redis.arithmetic = .exact
  total : books.session.totalLlmCostUsd = .finite total

/-- A turn reports the counter at its end, and the total grows by the report. -/
theorem takeTurn_balanced (exact : FloatRounding.ExactSums) {books : Books} {key : Text}
    {counted total : ℚ} (balanced : Balanced config books key counted total)
    (turn : AccountedTurn) :
    (takeTurn config books turn).2 = .finite (counted + turn.cost) ∧
      Balanced config (takeTurn config books turn).1 key (counted + turn.cost)
        (total + (counted + turn.cost)) := by
  rcases balanced.counter with ⟨redis, working, counter, server⟩
  have keyed : (SessionLLMContext.forTurn config books.redis
      books.session.toJson).budget.key = key := balanced.keyed
  have memory : (SessionLLMContext.forTurn config books.redis
      books.session.toJson).budget.spentUsd = .finite counted := by
    rw [← counter, ← keyed, working]
    change ((redis.counters _).map redis.arithmetic.read).getD 0 = _
    rw [server]
    change Option.getD (Option.map id _) 0 = _
    rw [Option.map_id]
    rfl
  obtain ⟨after, recorded, grown, still⟩ := BudgetTracker.recordAll_working exact turn.costs
    (SessionLLMContext.forTurn config books.redis books.session.toJson).budget redis memory
    (by rw [keyed, counter]) server
  rw [keyed] at grown
  rw [takeTurn]
  rw [working] at recorded ⊢
  dsimp only
  rw [recorded]
  refine ⟨rfl, ?_, ⟨after, rfl, grown, still⟩, ?_⟩
  · rw [← balanced.keyed]
    exact sessionKey_turnResult config _ _ _
  · rw [StateEngineService.totalLlmCostUsd_turnResult, balanced.total]
    exact ExactFloat.finite_add exact _ _

/-- Over a run the reports are the running totals of the costs. -/
theorem run_balanced (exact : FloatRounding.ExactSums) {books : Books} {key : Text}
    {counted total : ℚ} (balanced : Balanced config books key counted total)
    (turns : List AccountedTurn) :
    (((costMachine config).trace books turns).map (·.output) =
        (totals counted (turns.map (·.cost))).map .finite) ∧
      Balanced config ((costMachine config).run books turns) key
        (counted + (turns.map (·.cost)).sum)
        (total + (totals counted (turns.map (·.cost))).sum) := by
  induction turns generalizing books counted total with
  | nil => simpa using balanced
  | cons turn turns ih =>
      rcases takeTurn_balanced config exact balanced turn with ⟨report, after⟩
      rcases ih after with ⟨reports, final⟩
      constructor
      · rw [Machine.trace_cons, List.map_cons, List.map_cons, RunningTotal.totals_cons,
          List.map_cons, ← report, ← reports]
        rfl
      · rw [Machine.run_cons, List.map_cons, List.sum_cons, RunningTotal.totals_cons,
          List.sum_cons, ← add_assoc, ← add_assoc]
        exact final

/-- The costs of a session are counted once: the total of the session and the counter are
their sum, and each turn reports its own costs. -/
def CountedOnce (books : Books) (turns : List AccountedTurn) : Prop :=
  let after := (costMachine config).run books turns
  after.session.totalLlmCostUsd = .finite (turns.map (·.cost)).sum ∧
    (∃ redis, after.redis = .working redis ∧
      (redis.counters (sessionKey config books.session)).getD 0 =
        .finite (turns.map (·.cost)).sum) ∧
    ((costMachine config).trace books turns).map (·.output) =
      turns.map fun turn => .finite turn.cost

/-- On a session without costs and in exact arithmetic, they are counted once exactly when
no turn but the last one costs anything. -/
theorem countedOnce_iff (exact : FloatRounding.ExactSums) {session : SessionState}
    {redis : Redis} (server : redis.arithmetic = .exact) (unspent : session.totalLlmCostUsd = 0)
    (uncounted : redis.counters (sessionKey config session) = none)
    (turns : List AccountedTurn) :
    CountedOnce config { session, redis := .working redis } turns ↔
      ∀ turn ∈ turns.dropLast, turn.cost = 0 := by
  have balanced : Balanced config { session, redis := .working redis }
      (sessionKey config session) 0 0 :=
    ⟨rfl, ⟨redis, rfl, by rw [uncounted]; rfl, server⟩, unspent⟩
  rcases run_balanced config exact balanced turns with ⟨reports, final⟩
  have injective : Function.Injective ExactFloat.finite := fun _ _ same =>
    ExactFloat.finite.inj same
  have once : totals 0 (turns.map (·.cost)) = turns.map (·.cost) ↔
      ∀ turn ∈ turns.dropLast, turn.cost = 0 := by
    rw [RunningTotal.totals_eq_self_iff, ← List.map_dropLast, List.forall_mem_map]
    constructor
    · rintro (none | ⟨_, free⟩)
      · simp [List.map_eq_nil_iff.mp none]
      · exact free
    · intro free
      exact .inr ⟨rfl, free⟩
  have same : (turns.map fun turn => ExactFloat.finite turn.cost) =
      (turns.map (·.cost)).map .finite := by
    rw [List.map_map]
    rfl
  rw [← once]
  rw [CountedOnce]
  rw [reports]
  constructor
  · rintro ⟨_, _, own⟩
    rw [same] at own
    exact List.map_injective_iff.mpr injective own
  · intro own
    rw [own] at final
    simp only [zero_add] at final
    rw [own, same]
    obtain ⟨after, working, counter, _⟩ := final.counter
    exact ⟨final.total, ⟨after, working, counter⟩, rfl⟩

end Turns

/-! ### Two turns that cost the same -/

section Sample

attribute [local instance] referenceRuntime referenceRendering

/-- A session without costs. -/
def sampleUnspent : SessionState := .new 0xA1 1700000000000000000 1 2

def sampleBooks : Books where
  session := sampleUnspent
  redis := .working .empty

theorem sampleUnspent_uncounted :
    Redis.empty.counters (sessionKey {} sampleUnspent) = none := rfl

/-- A turn with one call at one dollar. -/
def samplePaidTurn : AccountedTurn where
  costs := [1]
  final := PipelineExecutor.initialState sampleUnspent.toJson (.ofString "Go on.")
    (.forTurn {} sampleBooks.redis sampleUnspent.toJson)
  ambient := { now := fun _ => 1700000000000000000, newV4 := fun drawn => .ofNat 128 drawn }
  entities := []
  acUpdates := []

theorem countedOnce_iff_samplePaidTurn :
    CountedOnce {} sampleBooks [samplePaidTurn, samplePaidTurn] ↔
      ∀ turn ∈ [samplePaidTurn, samplePaidTurn].dropLast, turn.cost = 0 :=
  countedOnce_iff {} FloatRounding.exactSums_exact rfl
    (show sampleUnspent.totalLlmCostUsd = 0 from rfl) sampleUnspent_uncounted
    [samplePaidTurn, samplePaidTurn]

/-- The second turn reports two dollars, and the session is charged three. -/
theorem not_countedOnce_of_samplePaidTurn :
    ¬∀ config session redis turns, redis.arithmetic = .exact → session.totalLlmCostUsd = 0 →
      redis.counters (sessionKey config session) = none →
        CountedOnce config { session, redis := .working redis } turns := by
  intro all
  obtain ⟨total, _⟩ := all {} sampleUnspent .empty [samplePaidTurn, samplePaidTurn] rfl
    rfl sampleUnspent_uncounted
  have balanced : Balanced {} sampleBooks (sessionKey {} sampleUnspent) 0 0 :=
    ⟨rfl, ⟨.empty, rfl, rfl, rfl⟩, rfl⟩
  obtain ⟨_, _, _, charged⟩ := run_balanced {} FloatRounding.exactSums_exact balanced
    [samplePaidTurn, samplePaidTurn]
  have differs := ExactFloat.finite.inj (charged.symm.trans total)
  norm_num [samplePaidTurn, AccountedTurn.cost] at differs

end Sample

end Chitragupt
