import Chitragupt.Lib.Contributions
import Chitragupt.Lib.Coroutine
import Chitragupt.Pipeline.CostAccounting
import Mathlib.Data.NNRat.BigOperators
import Mathlib.Tactic.Linarith

/-!
# Concurrent turns and the budget counters

Turns of any sessions run beside each other, each with a tracker of its own.  A turn is
suspended while Redis reads its counter, carries out an increment or renews an expiry,
and wherever else it waits; in between it runs alone.
-/

namespace Chitragupt

open Contributions (amounts total)
open Machines (Coroutine Tasks)
open Python (Json)

/-! ## Keys of sessions -/

/-- A non-empty text without a colon. -/
def Plain (text : Text) : Prop := text ≠ [] ∧ 58 ∉ text

/-- The identifiers of a session; a session may lack a workspace. -/
@[ext] structure SessionIds where
  workspaceId : Option Text
  sessionId : Text
  workspacePlain : ∀ workspace ∈ workspaceId, Plain workspace
  sessionPlain : Plain sessionId
  deriving DecidableEq

namespace SessionIds

/-- The counter of the session. -/
def key (ids : SessionIds) : Text := budgetKey ids.sessionId ids.workspaceId

/-- The key behind its fixed start, with the colons in view. -/
def body (ids : SessionIds) : Text :=
  (ids.workspaceId.elim [] fun workspace => workspace ++ [58]) ++
    ids.sessionId ++ 58 :: Text.ofString "total_usd"

theorem key_eq (ids : SessionIds) : ids.key = Text.ofString "budget:" ++ ids.body := by
  rcases ids with ⟨workspaceId, sessionId, workspacePlain, _⟩
  cases workspaceId with
  | none => rfl
  | some workspace =>
      cases workspace with
      | nil => exact absurd rfl (workspacePlain [] rfl).1
      | cons code rest =>
          simp only [key, budgetKey, body, Option.elim_some, List.append_assoc]
          rfl

/-- Different sessions have different counters, with and without a workspace. -/
theorem key_injective : Function.Injective key := by
  have tail : 58 ∉ Text.ofString "total_usd" := by decide
  -- Without a workspace nothing but the fixed end follows the first colon.
  have mixed : ∀ (bare full : SessionIds) (workspace : Text), bare.workspaceId = none →
      full.workspaceId = some workspace → bare.body ≠ full.body := by
    intro bare full workspace none some same
    rw [body, body, none, some] at same
    simp only [Option.elim_none, Option.elim_some, List.nil_append, List.append_assoc,
      List.singleton_append] at same
    obtain ⟨_, rest⟩ := (Text.append_separator_inj bare.sessionPlain.2
      (full.workspacePlain workspace some).2).mp same
    exact tail (rest ▸ List.mem_append_right _ List.mem_cons_self)
  intro first second same
  rw [key_eq, key_eq, List.append_cancel_left_eq] at same
  cases one : first.workspaceId with
  | none =>
      cases two : second.workspaceId with
      | none =>
          rw [body, body, one, two] at same
          simp only [Option.elim_none, List.nil_append] at same
          obtain ⟨session, _⟩ :=
            (Text.append_separator_inj first.sessionPlain.2 second.sessionPlain.2).mp same
          exact SessionIds.ext (one.trans two.symm) session
      | some workspace => exact absurd same (mixed first second workspace one two)
  | some workspace =>
      cases two : second.workspaceId with
      | none => exact absurd same.symm (mixed second first workspace two one)
      | some other =>
          rw [body, body, one, two] at same
          simp only [Option.elim_some, List.append_assoc, List.singleton_append] at same
          obtain ⟨sameWorkspace, rest⟩ := (Text.append_separator_inj
            (first.workspacePlain workspace one).2 (second.workspacePlain other two).2).mp same
          obtain ⟨session, _⟩ :=
            (Text.append_separator_inj first.sessionPlain.2 second.sessionPlain.2).mp rest
          exact SessionIds.ext (by rw [one, two, sameWorkspace]) session

end SessionIds

/-! ## Trackers -/

namespace BudgetTracker

/-- The tracker that `load` makes of the reply of the server; a missing counter is
zero. -/
def ofReply (sessionId : Text) (workspaceId : Option Text) (raw : Option ExactFloat) :
    BudgetTracker where
  sessionId
  workspaceId
  spentUsd := raw.getD 0
  limitUsd := defaultLimitUsd

/-- The part of `record` in front of its first suspension. -/
def spend [FloatRounding] (cost : ℚ≥0) (tracker : BudgetTracker) : BudgetTracker :=
  { tracker with spentUsd := tracker.spentUsd + .finite cost }

theorem load_working (sessionId : Text) (redis : Redis) (workspaceId : Option Text) :
    load sessionId (.working redis) workspaceId =
      ofReply sessionId workspaceId (redis.get (budgetKey sessionId workspaceId)) := rfl

theorem record_working [FloatRounding] (cost : ℚ≥0) (tracker : BudgetTracker) (redis : Redis) :
    tracker.record (.finite cost) (.working redis) =
      (tracker.spend cost, .working (redis.incrByFloat tracker.key (.finite cost))) := rfl

end BudgetTracker

/-- The tracker of a session for a reply of the server. -/
def SessionIds.tracker (ids : SessionIds) (raw : Option ExactFloat) : BudgetTracker :=
  .ofReply ids.sessionId ids.workspaceId raw

/-- The factory gives a turn the tracker of the session that its document names. -/
theorem SessionLLMContext.budget_forTurn [Rendering] (config : OrchestrationConfig)
    (redis : Redis) {session : Json} {ids : SessionIds}
    (sessionId : sessionText session "session_id" = ids.sessionId)
    (workspaceId : sessionText session "workspace_id" = ids.workspaceId.getD []) :
    (forTurn config (.working redis) session).budget =
      ids.tracker (redis.get ids.key) := by
  rcases ids with ⟨workspace, sessionText, workspacePlain, sessionPlain⟩
  unfold forTurn
  rw [sessionId, workspaceId]
  cases sessionText with
  | nil => exact absurd rfl sessionPlain.1
  | cons code rest =>
      cases workspace with
      | none => rfl
      | some workspace =>
          cases workspace with
          | nil => exact absurd rfl (workspacePlain [] rfl).1
          | cons first others => rfl

/-! ## Turns -/

/-- What a turn does to the budget of its session: the costs it records, in order. -/
structure BudgetTurn where
  session : SessionIds
  costs : List ℚ≥0

/-- The server and the increments it has carried out, by turn.  The log is a history
field. -/
structure BudgetServer (ι : Type) where
  redis : Redis
  log : List (ι × ℚ≥0)

/-- A server on which these counters have been set, and which does not round. -/
def Redis.ofAmounts (amounts : Text → Option ℚ) : Redis where
  counters key := (amounts key).map .finite
  arithmetic := .exact

theorem Redis.counters_ofAmounts (amounts : Text → Option ℚ) (key : Text) :
    ((ofAmounts amounts).counters key).getD 0 = .finite ((amounts key).getD 0) := by
  simp only [ofAmounts]
  cases amounts key <;> rfl

/-- `INCRBYFLOAT` for a turn. -/
def BudgetServer.increment {ι : Type} (server : BudgetServer ι) (turn : ι) (key : Text)
    (cost : ℚ≥0) : BudgetServer ι where
  redis := server.redis.incrByFloat key (.finite cost)
  log := server.log ++ [(turn, cost)]

/-- A live tracker with the costs still to be recorded, and the length of the log when
the server read its counter. -/
structure HeldBudget where
  tracker : BudgetTracker
  rest : List ℚ≥0
  seen : ℕ

/-- Where a turn is suspended. -/
inductive BudgetPoint where
  | created
  /-- The counter is requested. -/
  | loading
  /-- The reply is on its way. -/
  | loaded (raw : Option ExactFloat) (seen : ℕ)
  | idle (held : HeldBudget)
  /-- Memory has grown, and the increment is on its way to the server. -/
  | incrementing (held : HeldBudget) (cost : ℚ≥0)
  | incremented (held : HeldBudget)
  /-- The expiry is on its way to the server. -/
  | expiring (held : HeldBudget)
  | finished

namespace BudgetPoint

/-- The tracker of a turn that has one. -/
def held? : BudgetPoint → Option HeldBudget
  | .idle held | .incrementing held _ | .incremented held | .expiring held => some held
  | _ => none

/-- The increment that memory has and the server has not. -/
def inFlight : BudgetPoint → ℚ≥0
  | .incrementing _ cost => cost
  | _ => 0

/-- The same as a list of at most one cost. -/
def pending : BudgetPoint → List ℚ≥0
  | .incrementing _ cost => [cost]
  | _ => []

theorem sum_pending (point : BudgetPoint) : point.pending.sum = point.inFlight := by
  cases point <;> simp [pending, inFlight]

/-- The costs that a turn has yet to record. -/
def due (turn : BudgetTurn) : BudgetPoint → List ℚ≥0
  | .created | .loading | .loaded _ _ => turn.costs
  | .idle held | .incrementing held _ | .incremented held | .expiring held => held.rest
  | .finished => []

end BudgetPoint

namespace BudgetTurn

variable {ι : Type}

section Moves

variable [FloatRounding]

/-- One move of a turn: its own code up to the next suspension, or what the server does
for it. -/
def step (self : ι) (turn : BudgetTurn) :
    BudgetPoint → BudgetServer ι → Option (BudgetPoint × BudgetServer ι)
  | .created, server => some (.loading, server)
  | .loading, server =>
      some (.loaded (server.redis.get turn.session.key) server.log.length, server)
  | .loaded raw seen, server =>
      some (.idle { tracker := turn.session.tracker raw, rest := turn.costs, seen }, server)
  | .idle held, server =>
      match held.rest with
      | [] => some (.finished, server)
      | cost :: rest =>
          some (.incrementing { held with tracker := held.tracker.spend cost, rest } cost,
            server)
  | .incrementing held cost, server =>
      some (.incremented held, server.increment self held.tracker.key cost)
  | .incremented held, server => some (.expiring held, server)
  | .expiring held, server => some (.idle held, server)
  | .finished, _ => none

/-- A turn as a task; every point is a suspension. -/
def coroutine (turns : ι → BudgetTurn) (self : ι) : Coroutine BudgetPoint (BudgetServer ι) where
  step := (turns self).step self
  suspended _ := true

/-- Turns that are about to begin. -/
def opening (redis : Redis) : Tasks ι BudgetPoint (BudgetServer ι) where
  locals _ := .created
  shared := { redis, log := [] }
  running := none

/-- A move writes to the server only when it carries out an increment. -/
theorem writes_of_step {self : ι} {turn : BudgetTurn} {point moved : BudgetPoint}
    {server after : BudgetServer ι} (step : turn.step self point server = some (moved, after)) :
    after = server ∨ ∃ held cost, point = .incrementing held cost ∧ moved = .incremented held ∧
      after = server.increment self held.tracker.key cost := by
  cases point with
  | incrementing held cost =>
      cases step
      exact .inr ⟨held, cost, rfl, rfl, rfl⟩
  | finished => cases step
  | idle held =>
      rw [BudgetTurn.step] at step
      split at step <;> cases step <;> exact .inl rfl
  | created | loading | loaded raw seen | incremented held | expiring held =>
      cases step
      exact .inl rfl

/-- The turns after they have moved in the order of the schedule. -/
def interleave [DecidableEq ι] (turns : ι → BudgetTurn) (redis : Redis) (schedule : List ι) :
    Tasks ι BudgetPoint (BudgetServer ι) :=
  (Coroutine.scheduler (coroutine turns)).run (opening redis) schedule

end Moves

end BudgetTurn

/-! ## What memory, server and log agree on -/

/-- What memory makes of a spend and the costs recorded on it, one after the other. -/
def memorySum [FloatRounding] (spent : ExactFloat) (costs : List ℚ≥0) : ExactFloat :=
  costs.foldl (fun spent (cost : ℚ≥0) => spent + .finite cost) spent

/-- What the server makes of a counter and the costs added to it, in their order. -/
def CounterArithmetic.addAll (arithmetic : CounterArithmetic) (stored : Option ExactFloat)
    (costs : List ℚ≥0) : Option ExactFloat :=
  costs.foldl (fun stored (cost : ℚ≥0) =>
    some (arithmetic.sum (stored.getD 0) (.finite cost))) stored

theorem memorySum_concat [FloatRounding] (spent : ExactFloat) (costs : List ℚ≥0) (cost : ℚ≥0) :
    memorySum spent (costs ++ [cost]) = memorySum spent costs + .finite cost := by
  rw [memorySum, List.foldl_append]
  rfl

/-- The server goes on from what it has. -/
theorem CounterArithmetic.addAll_append (arithmetic : CounterArithmetic)
    (stored : Option ExactFloat) (earlier later : List ℚ≥0) :
    arithmetic.addAll stored (earlier ++ later) =
      arithmetic.addAll (arithmetic.addAll stored earlier) later := by
  rw [addAll, List.foldl_append]
  rfl

namespace BudgetTurn

section Accounts

variable [FloatRounding] [DecidableEq ι] (turns : ι → BudgetTurn) (redis : Redis)

/-- The counter of a session, as the log has it. -/
def counterAt (session : SessionIds) (log : List (ι × ℚ≥0)) : Option ExactFloat :=
  redis.arithmetic.addAll (redis.counters session.key)
    (amounts (fun turn => (turns turn).session = session) log)

/-- The reply to a turn that asks for its counter at this point of the log. -/
def replyAt (self : ι) (log : List (ι × ℚ≥0)) (seen : ℕ) : Option ExactFloat :=
  (counterAt turns redis (turns self).session (log.take seen)).map redis.arithmetic.read

/-- A turn reads its counter before it adds to it. -/
structure HasRead (owner : ι) (log : List (ι × ℚ≥0)) (seen : ℕ) : Prop where
  bounded : seen ≤ log.length
  early : amounts (· = owner) (log.take seen) = []

/-- The tracker of a turn has the counter as it was read, and the turn's own costs. -/
structure Holds (owner : ι) (log : List (ι × ℚ≥0)) (held : HeldBudget)
    (pending : List ℚ≥0) : Prop where
  read : HasRead owner log held.seen
  tracker : held.tracker = (turns owner).session.tracker (some (memorySum
    ((replyAt turns redis owner log held.seen).getD 0) (amounts (· = owner) log ++ pending)))

/-- What is known of a turn where it is suspended. -/
def Consistent (self : ι) (log : List (ι × ℚ≥0)) : BudgetPoint → Prop
  | .created | .loading | .finished => True
  | .loaded raw seen => HasRead self log seen ∧ raw = replyAt turns redis self log seen
  | .idle held | .incremented held | .expiring held => Holds turns redis self log held []
  | .incrementing held cost => Holds turns redis self log held [cost]

/-- The accounts of all turns: the server has what the log says, and the costs of every
turn are logged, in flight, or still due. -/
structure Accounted (tasks : Tasks ι BudgetPoint (BudgetServer ι)) : Prop where
  suspended : tasks.running = none
  arithmetic : tasks.shared.redis.arithmetic = redis.arithmetic
  counter : ∀ session : SessionIds,
    tasks.shared.redis.counters session.key = counterAt turns redis session tasks.shared.log
  balance : ∀ self, amounts (· = self) tasks.shared.log ++ ((tasks.locals self).pending ++
    (tasks.locals self).due (turns self)) = (turns self).costs
  consistent : ∀ self, Consistent turns redis self tasks.shared.log (tasks.locals self)

variable {turns redis}

/-- Increments of other turns leave a turn alone. -/
theorem Consistent.concat {self other : ι} (different : other ≠ self) (cost : ℚ≥0)
    {log : List (ι × ℚ≥0)} {point : BudgetPoint}
    (consistent : Consistent turns redis self log point) :
    Consistent turns redis self (log ++ [(other, cost)]) point := by
  have early : ∀ {seen}, HasRead self log seen →
      (log ++ [(other, cost)]).take seen = log.take seen :=
    fun read => List.take_append_of_le_length read.bounded
  have keeps : ∀ {seen}, HasRead self log seen →
      HasRead self (log ++ [(other, cost)]) seen := by
    intro seen read
    constructor
    · rw [List.length_append]
      exact Nat.le_add_right_of_le read.bounded
    · rw [early read]
      exact read.early
  have same : ∀ {seen}, HasRead self log seen →
      replyAt turns redis self (log ++ [(other, cost)]) seen =
        replyAt turns redis self log seen := by
    intro seen read
    rw [replyAt, replyAt, early read]
  have holds : ∀ {held pending}, Holds turns redis self log held pending →
      Holds turns redis self (log ++ [(other, cost)]) held pending := by
    intro held pending holds
    refine ⟨keeps holds.read, ?_⟩
    rw [same holds.read, Contributions.amounts_concat, if_neg different]
    exact holds.tracker
  cases point with
  | created | loading | finished => trivial
  | loaded raw seen => exact ⟨keeps consistent.1, (same consistent.1).symm ▸ consistent.2⟩
  | idle held | incremented held | expiring held | incrementing held cost =>
      exact holds consistent

/-- The move of a turn keeps its own accounts. -/
theorem own_step {self : ι} {point moved : BudgetPoint} {server after : BudgetServer ι}
    (step : (turns self).step self point server = some (moved, after))
    (arithmetic : server.redis.arithmetic = redis.arithmetic)
    (counter : server.redis.counters (turns self).session.key =
      counterAt turns redis (turns self).session server.log)
    (balance : amounts (· = self) server.log ++ (point.pending ++ point.due (turns self)) =
      (turns self).costs)
    (consistent : Consistent turns redis self server.log point) :
    amounts (· = self) after.log ++ (moved.pending ++ moved.due (turns self)) =
        (turns self).costs ∧
      Consistent turns redis self after.log moved := by
  -- Before the tracker is made, nothing of the turn is in the log.
  have unlogged : point.pending ++ point.due (turns self) = (turns self).costs →
      amounts (· = self) server.log = [] := by
    intro due
    rw [due] at balance
    exact List.append_left_eq_self.mp balance
  cases point with
  | created =>
      cases step
      exact ⟨balance, trivial⟩
  | loading =>
      cases step
      refine ⟨balance, ⟨le_rfl, ?_⟩, ?_⟩
      · rw [List.take_length]
        exact unlogged rfl
      · rw [replyAt, List.take_length, Redis.get, counter, arithmetic]
  | loaded raw seen =>
      cases step
      refine ⟨balance, consistent.1, ?_⟩
      rw [unlogged rfl, ← consistent.2]
      rfl
  | idle held =>
      rw [BudgetTurn.step] at step
      cases rest : held.rest with
      | nil =>
          rw [rest] at step
          cases step
          simp only [BudgetPoint.pending, BudgetPoint.due, rest] at balance
          exact ⟨balance, trivial⟩
      | cons cost others =>
          rw [rest] at step
          cases step
          simp only [BudgetPoint.pending, BudgetPoint.due, rest] at balance
          refine ⟨balance, consistent.read, ?_⟩
          dsimp only
          rw [consistent.tracker, List.append_nil, memorySum_concat]
          rfl
  | incrementing held cost =>
      cases step
      constructor
      · simp only [BudgetServer.increment, Contributions.amounts_concat, if_true,
          BudgetPoint.pending, BudgetPoint.due, List.append_assoc, List.nil_append]
        exact balance
      · rw [BudgetServer.increment]
        have early : (server.log ++ [(self, cost)]).take held.seen = server.log.take held.seen :=
          List.take_append_of_le_length consistent.read.bounded
        refine ⟨⟨?_, ?_⟩, ?_⟩
        · rw [List.length_append]
          exact Nat.le_add_right_of_le consistent.read.bounded
        · rw [early]
          exact consistent.read.early
        · rw [replyAt, early, Contributions.amounts_concat, if_pos rfl, List.append_nil]
          exact consistent.tracker
  | incremented held | expiring held =>
      cases step
      exact ⟨balance, consistent⟩
  | finished => cases step

omit [FloatRounding] [DecidableEq ι] in
/-- An increment reaches the counter of its session and no other. -/
theorem counter_increment {self : ι} {held : HeldBudget} {cost : ℚ≥0} {server : BudgetServer ι}
    (key : held.tracker.key = (turns self).session.key)
    (arithmetic : server.redis.arithmetic = redis.arithmetic)
    (counter : ∀ session : SessionIds, server.redis.counters session.key =
      counterAt turns redis session server.log) (session : SessionIds) :
    (server.increment self held.tracker.key cost).redis.counters session.key =
      counterAt turns redis session (server.increment self held.tracker.key cost).log := by
  rw [BudgetServer.increment, counterAt, Contributions.amounts_concat]
  by_cases same : (turns self).session = session
  · subst same
    rw [key, Redis.counters_incrByFloat_self, if_pos rfl, CounterArithmetic.addAll_append,
      arithmetic, counter, counterAt]
    rfl
  · have apart : session.key ≠ held.tracker.key := by
      rw [key]
      exact fun equal => same (SessionIds.key_injective equal).symm
    rw [Redis.counters_incrByFloat_of_ne _ _ apart, counter, if_neg same, counterAt]

theorem accounted_advance {tasks : Tasks ι BudgetPoint (BudgetServer ι)}
    (accounted : Accounted turns redis tasks) (mover : ι) :
    Accounted turns redis (Coroutine.advance (coroutine turns) tasks mover) := by
  rw [Coroutine.advance, if_pos (.inl accounted.suspended)]
  split
  next => exact accounted
  next moved after step =>
    have own := own_step step accounted.arithmetic (accounted.counter _)
      (accounted.balance mover) (accounted.consistent mover)
    -- What the other turns know survives, since only this one has written.
    have others : ∀ other, other ≠ mover →
        amounts (· = other) after.log = amounts (· = other) tasks.shared.log ∧
          Consistent turns redis other after.log (tasks.locals other) := by
      intro other different
      rcases writes_of_step step with rfl | ⟨held, cost, _, _, rfl⟩
      · exact ⟨rfl, accounted.consistent other⟩
      · rw [BudgetServer.increment]
        refine ⟨?_, (accounted.consistent other).concat different.symm cost⟩
        rw [Contributions.amounts_concat, if_neg different.symm]
    constructor
    · rfl
    · rcases writes_of_step step with rfl | ⟨held, cost, _, _, rfl⟩
      · exact accounted.arithmetic
      · exact accounted.arithmetic
    · rcases writes_of_step step with rfl | ⟨held, cost, point, _, rfl⟩
      · exact accounted.counter
      · have holds := accounted.consistent mover
        rw [point] at holds
        exact counter_increment (by rw [holds.tracker]; rfl) accounted.arithmetic
          accounted.counter
    · intro turn
      dsimp only
      by_cases same : turn = mover
      · subst same
        rw [Function.update_self]
        exact own.1
      · rw [Function.update_of_ne same, (others turn same).1]
        exact accounted.balance turn
    · intro turn
      dsimp only
      by_cases same : turn = mover
      · subst same
        rw [Function.update_self]
        exact own.2
      · rw [Function.update_of_ne same]
        exact (others turn same).2

/-- The accounts are in order after every schedule. -/
theorem accounted_interleave (turns : ι → BudgetTurn) (redis : Redis) (schedule : List ι) :
    Accounted turns redis (interleave turns redis schedule) := by
  have start : Accounted turns redis (opening redis) := by
    constructor
    · rfl
    · rfl
    · intro session
      rfl
    · intro turn
      rfl
    · intro turn
      trivial
  have stable : (Coroutine.scheduler (coroutine turns)).Stable (fun _ _ => True)
      (Accounted turns redis) :=
    fun _ mover _ accounted => accounted_advance accounted mover
  exact stable.run (fun _ _ => trivial) start

/-- A live tracker holds what its turn has read and recorded. -/
theorem Accounted.holds {tasks : Tasks ι BudgetPoint (BudgetServer ι)}
    (accounted : Accounted turns redis tasks) {turn : ι} {held : HeldBudget}
    (live : (tasks.locals turn).held? = some held) :
    Holds turns redis turn tasks.shared.log held (tasks.locals turn).pending := by
  have consistent := accounted.consistent turn
  cases point : tasks.locals turn with
  | created | loading | finished | loaded raw seen =>
      rw [point] at live
      cases live
  | idle other | incremented other | expiring other | incrementing other cost =>
      rw [point] at live consistent
      cases live
      exact consistent

end Accounts

/-! ## A turn by itself -/

section Alone

variable [FloatRounding] [DecidableEq ι] {turns : ι → BudgetTurn}

/-- What a turn and the server have come to while every turn is suspended. -/
structure At (owner : ι) (tasks : Tasks ι BudgetPoint (BudgetServer ι)) (point : BudgetPoint)
    (redis : Redis) : Prop where
  suspended : tasks.running = none
  point : tasks.locals owner = point
  redis : tasks.shared.redis = redis

variable (turns) in
/-- Let a turn make one move. -/
theorem At.next {owner : ι} {tasks : Tasks ι BudgetPoint (BudgetServer ι)}
    {point moved : BudgetPoint} {redis : Redis} {server : BudgetServer ι}
    (here : At owner tasks point redis)
    (step : (turns owner).step owner point { redis, log := tasks.shared.log } =
      some (moved, server)) :
    At owner ((Coroutine.scheduler (coroutine turns)).next tasks owner) moved
      server.redis := by
  rw [← here.redis, ← here.point] at step
  have advanced : (Coroutine.scheduler (coroutine turns)).next tasks owner =
      { locals := Function.update tasks.locals owner moved
        shared := server
        running := none } := by
    change Coroutine.advance (coroutine turns) tasks owner = _
    rw [Coroutine.advance, if_pos (.inl here.suspended)]
    simp only [coroutine, step, if_true]
  rw [advanced]
  exact ⟨rfl, Function.update_self .., rfl⟩

/-- A turn that is left alone records its costs and finishes. -/
theorem finishes_of_idle {owner : ι} (costs : List ℚ≥0) (tracker : BudgetTracker) (seen : ℕ)
    {tasks : Tasks ι BudgetPoint (BudgetServer ι)} {redis : Redis}
    (here : At owner tasks (.idle { tracker, rest := costs, seen }) redis) :
    ∃ count after, At owner
        ((Coroutine.scheduler (coroutine turns)).run tasks (List.replicate count owner))
        .finished after ∧
      (BudgetTracker.recordAll costs tracker (.working redis)).2 = .working after := by
  induction costs generalizing tracker tasks redis with
  | nil => exact ⟨1, redis, here.next turns rfl, rfl⟩
  | cons cost costs ih =>
      have spent := here.next turns rfl
      have counted := spent.next turns rfl
      have renewed := counted.next turns rfl
      have idle := renewed.next turns rfl
      obtain ⟨count, after, finished, recorded⟩ := ih (tracker.spend cost) idle
      exact ⟨count + 4, after, finished, recorded⟩

/-- A turn that runs alone does what loading a tracker and recording the costs does. -/
theorem finishes_alone {owner : ι} {tasks : Tasks ι BudgetPoint (BudgetServer ι)}
    {redis : Redis} (here : At owner tasks .created redis) :
    ∃ count after, At owner
        ((Coroutine.scheduler (coroutine turns)).run tasks (List.replicate count owner))
        .finished after ∧
      (BudgetTracker.recordAll (turns owner).costs
        (.load (turns owner).session.sessionId (.working redis)
          (turns owner).session.workspaceId) (.working redis)).2 = .working after := by
  have loading := here.next turns rfl
  have loaded := loading.next turns rfl
  have idle := loaded.next turns rfl
  obtain ⟨count, after, finished, recorded⟩ := finishes_of_idle _ _ _ idle
  exact ⟨count + 3, after, finished, recorded⟩

end Alone

/-! ## Exact arithmetic -/

section Exact

attribute [local instance] FloatRounding.exact

theorem memorySum_exact (spent : ℚ) (costs : List ℚ≥0) :
    memorySum (.finite spent) costs = .finite (spent + (costs.sum : ℚ≥0)) := by
  induction costs generalizing spent with
  | nil => simp [memorySum]
  | cons cost costs ih =>
      rw [memorySum, List.foldl_cons, ← memorySum, ExactFloat.finite_add
        FloatRounding.exactSums_exact, ih, List.sum_cons, NNRat.cast_add, add_assoc]

theorem addAll_exact {stored : Option ExactFloat} {amount : ℚ}
    (counter : stored.getD 0 = .finite amount) (costs : List ℚ≥0) :
    (CounterArithmetic.exact.addAll stored costs).getD 0 =
      .finite (amount + (costs.sum : ℚ≥0)) := by
  induction costs generalizing stored amount with
  | nil => simpa [CounterArithmetic.addAll] using counter
  | cons cost costs ih =>
      have grown : (some (CounterArithmetic.exact.sum (stored.getD 0) (.finite cost))).getD 0 =
          .finite (amount + cost) := by
        rw [counter]
        rfl
      rw [CounterArithmetic.addAll, List.foldl_cons, ← CounterArithmetic.addAll, ih grown,
        List.sum_cons, NNRat.cast_add, add_assoc]

variable [DecidableEq ι] (turns : ι → BudgetTurn) (counted : Text → Option ℚ)

/-- What the turns of a session have added. -/
def added (session : SessionIds) (log : List (ι × ℚ≥0)) : ℚ≥0 :=
  total (fun turn => (turns turn).session = session) log

/-- What the other turns of the session have added since a turn read its counter. -/
def missed (owner : ι) (log : List (ι × ℚ≥0)) (seen : ℕ) : ℚ≥0 :=
  total (fun other => other ≠ owner ∧ (turns other).session = (turns owner).session)
    (log.drop seen)

/-- The counter as a turn has read it. -/
def readTotal (self : ι) (log : List (ι × ℚ≥0)) (seen : ℕ) : ℚ :=
  (counted (turns self).session.key).getD 0 + added turns (turns self).session (log.take seen)

variable {turns counted} {tasks : Tasks ι BudgetPoint (BudgetServer ι)}

omit [DecidableEq ι] in
theorem counterAt_exact (session : SessionIds) (log : List (ι × ℚ≥0)) :
    (counterAt turns (.ofAmounts counted) session log).getD 0 =
      .finite ((counted session.key).getD 0 + added turns session log) := by
  rw [counterAt, added, Contributions.total_eq_sum_amounts]
  exact addAll_exact (Redis.counters_ofAmounts counted session.key) _

/-- The total of a session, as a turn sees it: what it has read, its own costs, and what
it has missed. -/
theorem HasRead.added_eq {owner : ι} {log : List (ι × ℚ≥0)} {seen : ℕ}
    (read : HasRead owner log seen) :
    added turns (turns owner).session log =
      added turns (turns owner).session (log.take seen) + total (· = owner) log +
        missed turns owner log seen := by
  have own : total (· = owner) (log.drop seen) = total (· = owner) log := by
    rw [← Contributions.total_take_add_drop (· = owner) seen log,
      Contributions.total_eq_sum_amounts (· = owner) (log.take seen), read.early, List.sum_nil,
      zero_add]
  rw [missed, add_assoc, ← own,
    ← Contributions.total_eq_own_add_others (fun turn => (turns turn).session = _) rfl]
  exact (Contributions.total_take_add_drop _ seen log).symm

/-- What a live tracker holds. -/
theorem Accounted.tracker_exact (accounted : Accounted turns (.ofAmounts counted) tasks)
    {turn : ι} {held : HeldBudget} (live : (tasks.locals turn).held? = some held) :
    held.tracker = (turns turn).session.tracker (some (.finite
      (readTotal turns counted turn tasks.shared.log held.seen +
        (total (· = turn) tasks.shared.log + (tasks.locals turn).inFlight : ℚ≥0)))) := by
  have holds := accounted.holds live
  have reply : (replyAt turns (.ofAmounts counted) turn tasks.shared.log held.seen).getD 0 =
      .finite (readTotal turns counted turn tasks.shared.log held.seen) := by
    rw [replyAt, readTotal, ← counterAt_exact]
    change Option.getD (Option.map id _) 0 = _
    rw [Option.map_id, id_eq]
  rw [holds.tracker, reply, memorySum_exact, List.sum_append, BudgetPoint.sum_pending,
    Contributions.total_eq_sum_amounts]

variable (turns counted)

/-- Once the turns of a session have finished, its counter has grown by the sum of their
costs. -/
def NoUpdateLost [Fintype ι] (tasks : Tasks ι BudgetPoint (BudgetServer ι)) : Prop :=
  ∀ session : SessionIds,
    (∀ turn, (turns turn).session = session → tasks.locals turn = .finished) →
    (tasks.shared.redis.counters session.key).getD 0 = .finite ((counted session.key).getD 0 +
      ∑ turn with (turns turn).session = session, ((turns turn).costs.sum : ℚ))

/-- No tracker is ahead of the counter by more than its own increment in flight. -/
def NeverAhead (tasks : Tasks ι BudgetPoint (BudgetServer ι)) : Prop :=
  ∀ turn held, (tasks.locals turn).held? = some held →
    ((tasks.shared.redis.counters (turns turn).session.key).getD 0 +
      .finite (tasks.locals turn).inFlight).ge held.tracker.spentUsd = true

/-- Neither memory nor server loses an update, in any order of the moves of any turns:
the counter of a session gets the costs of its turns and no others, and no tracker is
ahead of it. -/
theorem updates_kept [Fintype ι] (schedule : List ι) :
    NoUpdateLost turns counted (interleave turns (.ofAmounts counted) schedule) ∧
      NeverAhead turns (interleave turns (.ofAmounts counted) schedule) := by
  have accounted := accounted_interleave turns (.ofAmounts counted) schedule
  constructor
  · intro session finished
    have logged : ∀ turn ∈ Finset.univ.filter fun turn => (turns turn).session = session,
        total (· = turn) (interleave turns (.ofAmounts counted) schedule).shared.log =
          (turns turn).costs.sum := by
      intro turn member
      have balance := accounted.balance turn
      rw [finished turn (Finset.mem_filter.mp member).2] at balance
      rw [Contributions.total_eq_sum_amounts, ← balance]
      simp [BudgetPoint.pending, BudgetPoint.due]
    rw [accounted.counter session, counterAt_exact, added, Contributions.total_eq_sum,
      Finset.sum_congr rfl logged, NNRat.cast_sum]
  · intro turn held live
    have holds := accounted.holds live
    rw [accounted.counter, counterAt_exact, holds.read.added_eq, accounted.tracker_exact live]
    simp only [ExactFloat.finite_add FloatRounding.exactSums_exact, SessionIds.tracker,
      BudgetTracker.ofReply, Option.getD_some, ExactFloat.ge, decide_eq_true_eq, readTotal]
    push_cast
    have nonneg := NNRat.coe_nonneg
      (missed turns turn (interleave turns (.ofAmounts counted) schedule).shared.log held.seen)
    linarith

end Exact

end BudgetTurn

end Chitragupt
