import Chitragupt.Pipeline.BudgetTurns

/-!
# The budget stage of a shared session

The counter in Redis is the source of truth for the stage of a session, but a tracker
decides from its own memory.  What memory has is the spend that it read and its own
costs; what the server has is the counter that was read and the costs of all turns since.
The stages agree as long as no threshold lies between the two sums, as each side rounds
them.
-/

namespace Chitragupt

open Contributions (amounts)
open Machines (Coroutine Tasks)

namespace BudgetTracker

/-- The amounts at which a stage begins. -/
def thresholds : List ExactFloat := [cautionUsd, criticalUsd, defaultLimitUsd]

/-- Two spends of a session are in the same stage when they reach the same thresholds. -/
theorem stage_eq_iff (session : SessionIds) (left right : ExactFloat) :
    (session.tracker (some left)).stage = (session.tracker (some right)).stage ↔
      ∀ threshold ∈ thresholds, left.ge threshold = right.ge threshold := by
  have ordered : ∀ spent : ExactFloat,
      (spent.ge defaultLimitUsd = true → spent.ge criticalUsd = true) ∧
        (spent.ge criticalUsd = true → spent.ge cautionUsd = true) := by
    intro spent
    constructor
    · exact ExactFloat.ge_of_le (by norm_num)
    · exact ExactFloat.ge_of_le (by norm_num)
  have leftOrder := ordered left
  have rightOrder := ordered right
  have limit : ∀ spent, (session.tracker (some spent)).limitUsd = defaultLimitUsd := fun _ => rfl
  have memory : ∀ spent, (session.tracker (some spent)).spentUsd = spent := fun _ => rfl
  simp only [stage, limit, memory, thresholds, List.forall_mem_cons]
  -- Each side is in one of the four stages.
  split_ifs <;> simp_all

end BudgetTracker

namespace BudgetTurn

variable {ι : Type} (turns : ι → BudgetTurn)

/-- No increment of a session is in flight. -/
def Settled (tasks : Tasks ι BudgetPoint (BudgetServer ι)) (session : SessionIds) : Prop :=
  ∀ turn, (turns turn).session = session →
    ∀ held cost, tasks.locals turn ≠ .incrementing held cost

/-- The stage of a session by its counter, as a tracker would load it. -/
def sessionStage (redis : Redis) (session : SessionIds) : BudgetStage :=
  (session.tracker (redis.get session.key)).stage

/-- While nothing is in flight, every live tracker is in the stage of its session. -/
def StagesAgree (tasks : Tasks ι BudgetPoint (BudgetServer ι)) : Prop :=
  ∀ turn held, (tasks.locals turn).held? = some held → Settled turns tasks (turns turn).session →
    held.tracker.stage = sessionStage tasks.shared.redis (turns turn).session

variable {turns} in
theorem pending_of_settled {tasks : Tasks ι BudgetPoint (BudgetServer ι)} {turn : ι}
    (settled : Settled turns tasks (turns turn).session) :
    (tasks.locals turn).pending = [] := by
  cases point : tasks.locals turn with
  | incrementing held cost => exact absurd point (settled turn rfl held cost)
  | created | loading | finished | loaded raw seen | idle held | incremented held
  | expiring held => rfl

variable [DecidableEq ι] (redis : Redis)

section Rounded

variable [FloatRounding]

/-- The spend that a turn has read at this point of the log, and its own costs, as memory
adds them up. -/
def ownSpend (turn : ι) (log : List (ι × ℚ≥0)) (seen : ℕ) : ExactFloat :=
  memorySum ((replyAt turns redis turn log seen).getD 0) (amounts (· = turn) log)

omit [FloatRounding] in
/-- The counter that a turn has read at this point of the log, and the costs of all turns
of the session since, as the server adds them up and memory would read the sum. -/
def sessionSpend (turn : ι) (log : List (ι × ℚ≥0)) (seen : ℕ) : ExactFloat :=
  ((redis.arithmetic.addAll (counterAt turns redis (turns turn).session (log.take seen))
    (amounts (fun other => (turns other).session = (turns turn).session)
      (log.drop seen))).map redis.arithmetic.read).getD 0

/-- While nothing is in flight, no threshold lies between what a live tracker has read
with its own costs, and what it has read with the costs of all turns. -/
def NoThresholdBetween (tasks : Tasks ι BudgetPoint (BudgetServer ι)) : Prop :=
  ∀ turn held, (tasks.locals turn).held? = some held → Settled turns tasks (turns turn).session →
    ∀ threshold ∈ BudgetTracker.thresholds,
      (ownSpend turns redis turn tasks.shared.log held.seen).ge threshold =
        (sessionSpend turns redis turn tasks.shared.log held.seen).ge threshold

variable {turns redis} {tasks : Tasks ι BudgetPoint (BudgetServer ι)}

/-- Without an increment in flight a tracker holds what its turn has read and spent. -/
theorem Accounted.tracker_eq (accounted : Accounted turns redis tasks) {turn : ι}
    {held : HeldBudget} (live : (tasks.locals turn).held? = some held)
    (settled : Settled turns tasks (turns turn).session) :
    held.tracker = (turns turn).session.tracker
      (some (ownSpend turns redis turn tasks.shared.log held.seen)) := by
  rw [(accounted.holds live).tracker, pending_of_settled settled, List.append_nil, ownSpend]

/-- The counter goes on from where any turn has read it. -/
theorem Accounted.get_eq (accounted : Accounted turns redis tasks) (turn : ι) (seen : ℕ) :
    (tasks.shared.redis.get (turns turn).session.key).getD 0 =
      sessionSpend turns redis turn tasks.shared.log seen := by
  rw [Redis.get, accounted.arithmetic, accounted.counter, sessionSpend, counterAt, counterAt,
    ← CounterArithmetic.addAll_append, Contributions.amounts_take_append_drop]

theorem stagesAgree_iff (accounted : Accounted turns redis tasks) :
    StagesAgree turns tasks ↔ NoThresholdBetween turns redis tasks := by
  refine forall₄_congr fun turn held live settled => ?_
  have total : sessionStage tasks.shared.redis (turns turn).session =
      ((turns turn).session.tracker (some
        (sessionSpend turns redis turn tasks.shared.log held.seen))).stage := by
    rw [sessionStage, ← accounted.get_eq turn held.seen]
    rfl
  rw [total, accounted.tracker_eq live settled]
  exact BudgetTracker.stage_eq_iff _ _ _

/-- The stages agree in every state of a run exactly when no threshold lies between the
two sums in any of them, however memory and server round. -/
theorem stagesAgree_interleave_iff (turns : ι → BudgetTurn) (redis : Redis)
    (schedule : List ι) :
    (∀ earlier, earlier <+: schedule →
        StagesAgree turns (interleave turns redis earlier)) ↔
      ∀ earlier, earlier <+: schedule →
        NoThresholdBetween turns redis (interleave turns redis earlier) := by
  apply forall₂_congr
  intro earlier _
  exact stagesAgree_iff (accounted_interleave turns redis earlier)

end Rounded

/-! ## Without rounding -/

section Exact

attribute [local instance] FloatRounding.exact

/-- While nothing is in flight, the costs that other turns have added since a live
tracker was loaded do not carry its spend to a threshold that it has not reached. -/
def NoThresholdMissed (tasks : Tasks ι BudgetPoint (BudgetServer ι)) : Prop :=
  ∀ turn held, (tasks.locals turn).held? = some held → Settled turns tasks (turns turn).session →
    ∀ threshold ∈ BudgetTracker.thresholds,
      (held.tracker.spentUsd + .finite (missed turns turn tasks.shared.log held.seen)).ge
          threshold = true →
        held.tracker.spentUsd.ge threshold = true

variable {turns} {counted : Text → Option ℚ} {tasks : Tasks ι BudgetPoint (BudgetServer ι)}

/-- The two sums differ by what the turn has missed. -/
theorem Accounted.sessionSpend_exact (accounted : Accounted turns (.ofAmounts counted) tasks)
    {turn : ι} {held : HeldBudget} (live : (tasks.locals turn).held? = some held)
    (settled : Settled turns tasks (turns turn).session) :
    ∃ spent : ℚ,
      held.tracker = (turns turn).session.tracker (some (.finite spent)) ∧
      sessionSpend turns (.ofAmounts counted) turn tasks.shared.log held.seen =
        .finite (spent + missed turns turn tasks.shared.log held.seen) := by
  have holds := accounted.holds live
  refine ⟨_, accounted.tracker_exact live, ?_⟩
  have read : ∀ stored : Option ExactFloat,
      (stored.map (Redis.ofAmounts counted).arithmetic.read).getD 0 = stored.getD 0 := by
    intro stored
    cases stored <;> rfl
  rw [← accounted.get_eq turn held.seen, Redis.get, accounted.arithmetic, read,
    accounted.counter, counterAt_exact, holds.read.added_eq, ← BudgetPoint.sum_pending,
    pending_of_settled settled, List.sum_nil, readTotal]
  push_cast
  ring_nf

theorem stagesAgree_iff_missed (accounted : Accounted turns (.ofAmounts counted) tasks) :
    StagesAgree turns tasks ↔ NoThresholdMissed turns tasks := by
  rw [stagesAgree_iff accounted]
  refine forall₄_congr fun turn held live settled => ?_
  obtain ⟨spent, tracker, total⟩ := accounted.sessionSpend_exact live settled
  have own : ownSpend turns (.ofAmounts counted) turn tasks.shared.log held.seen =
      .finite spent := by
    have same := (accounted.tracker_eq live settled).symm.trans tracker
    exact congrArg BudgetTracker.spentUsd same
  have memory : held.tracker.spentUsd = .finite spent := congrArg BudgetTracker.spentUsd tracker
  rw [own, total, memory, ExactFloat.finite_add FloatRounding.exactSums_exact]
  refine forall₂_congr fun threshold member => ?_
  have more := NNRat.coe_nonneg (missed turns turn tasks.shared.log held.seen)
  have reached : (ExactFloat.finite spent).ge threshold = true →
      (ExactFloat.finite (spent + missed turns turn tasks.shared.log held.seen)).ge threshold =
        true := by
    simp only [BudgetTracker.thresholds, List.mem_cons, List.not_mem_nil, or_false] at member
    rcases member with rfl | rfl | rfl <;>
      exact fun reached => decide_eq_true ((of_decide_eq_true reached).trans
        (le_add_of_nonneg_right more))
  rw [Bool.eq_iff_iff]
  exact ⟨fun same => same.mpr, fun early => ⟨reached, early⟩⟩

/-- Without rounding, the stages agree in every state of a run exactly when no turn misses
a threshold in any of them. -/
theorem stagesAgree_interleave_exact (turns : ι → BudgetTurn) (counted : Text → Option ℚ)
    (schedule : List ι) :
    (∀ earlier, earlier <+: schedule →
        StagesAgree turns (interleave turns (.ofAmounts counted) earlier)) ↔
      ∀ earlier, earlier <+: schedule →
        NoThresholdMissed turns (interleave turns (.ofAmounts counted) earlier) := by
  apply forall₂_congr
  intro earlier _
  exact stagesAgree_iff_missed (accounted_interleave turns (.ofAmounts counted) earlier)

/-! ### Two turns on a session that has spent $4.75 -/

def sampleIds : SessionIds where
  workspaceId := some [119]
  sessionId := [115]
  workspacePlain := by
    rintro _ ⟨⟩
    exact ⟨List.cons_ne_nil _ _, by decide⟩
  sessionPlain := ⟨List.cons_ne_nil _ _, by decide⟩

/-- Two turns of one session; each records 50 cents. -/
def sampleTurns : Bool → BudgetTurn := fun _ => { session := sampleIds, costs := [1 / 2] }

/-- The amounts are dyadic, so that doubles hold them and their sum. -/
def sampleAmounts : Text → Option ℚ := fun _ => some (19 / 4)

/-- Both turns load their trackers, then the first one records its cost. -/
def sampleSchedule : List Bool := [false, true, false, true, false, true, false, false]

/-- The session is exhausted, and the tracker of the second turn is not. -/
theorem not_stagesAgree_of_sampleTurns :
    ¬∀ turns redis (schedule : List Bool), ∀ earlier, earlier <+: schedule →
      StagesAgree turns (interleave turns redis earlier) := by
  intro all
  have agree := all sampleTurns (.ofAmounts sampleAmounts) sampleSchedule sampleSchedule
    List.prefix_rfl true
    { tracker := sampleIds.tracker (some (.finite (19 / 4))), rest := [1 / 2], seen := 0 } rfl
    (by
      intro turn _
      cases turn <;> exact nofun)
  have counted : (interleave sampleTurns (.ofAmounts sampleAmounts)
      sampleSchedule).shared.redis =
        (Redis.ofAmounts sampleAmounts).incrByFloat sampleIds.key (.finite (1 / 2 : ℚ≥0)) := rfl
  have total : ((Redis.ofAmounts sampleAmounts).incrByFloat sampleIds.key
      (.finite (1 / 2 : ℚ≥0))).get sampleIds.key = some (.finite (21 / 4)) := by
    rw [Redis.get, Redis.counters_incrByFloat_self]
    change some (ExactFloat.finite (19 / 4 + (1 / 2 : ℚ≥0))) = _
    norm_num
  change _ = sessionStage _ sampleIds at agree
  rw [counted, sessionStage, total] at agree
  norm_num [BudgetTracker.stage, SessionIds.tracker, BudgetTracker.ofReply,
    BudgetTracker.defaultLimitUsd, BudgetTracker.criticalUsd, ExactFloat.ge] at agree
  cases agree

end Exact

end BudgetTurn

end Chitragupt
