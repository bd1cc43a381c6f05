import Chitragupt.StateMachine.Progress
import Chitragupt.StateMachine.SessionRuns
import Chitragupt.StateMachine.TurnOrder

/-!
# Counting turns

Three conversions stand between the turns that clients report and the count that they read
back: a negative number of turns counts as none, the counter has 32 bits, and the message
takes these bits for a signed number.  The count is exact as long as it fits the last one.
-/

namespace Chitragupt

open Machines (Machine Store)
open StateEngineService

section TurnCount

variable [Runtime]

/-- The turns that a request adds to its session. -/
def SessionRequest.turns : SessionRequest → Nat
  | .applyTurnResult _ request => (max request.turnCountDelta.toInt 0).toNat
  | .requestTransition _ | .revisitPhase _ _ => 0

/-- All turns that the requests of a run add to a session. -/
def turnsFor (id : Uuid) (requests : List ServiceRequest) : Nat :=
  ((requests.filterMap (·.forSession id)).map SessionRequest.turns).sum

/-- No addition to the turn counter of a session overflows, and the count that the service
reports at the end is the sum of all turns. -/
structure CountsTurns (service : StateEngineService) (id : Uuid)
    (requests : List ServiceRequest) : Prop where
  noOverflow : ∀ earlier request later, requests = earlier ++ request :: later →
    ∀ state, (serviceMachine.run service earlier).sessions id = some state →
      state.turnCount.toNat + turnsFor id [request] < 2 ^ 32
  reported : ∀ query : SessionQuery, Runtime.parse query.sessionId = some id →
    ∃ proto, (serviceMachine.run service requests).getSessionState query = .ok proto ∧
      proto.turnCount.toInt = turnsFor id requests

/-! ## The conversions -/

omit [Runtime] in
/-- A signed number from its bits. -/
theorem toInt_toInt32 (counter : UInt32) :
    counter.toInt32.toInt =
      if 2 * counter.toNat < 2 ^ 32 then (counter.toNat : Int)
      else counter.toNat - (2 ^ 32 : Nat) :=
  BitVec.toInt_eq_toNat_cond counter.toBitVec

omit [Runtime] in
theorem toInt_toInt32_eq_iff (counter : UInt32) :
    counter.toInt32.toInt = counter.toNat ↔ counter.toNat < 2 ^ 31 := by
  rw [toInt_toInt32]
  split <;> omega

omit [Runtime] in
/-- A clamped number of turns is not changed by becoming unsigned. -/
theorem toNat_clamped (delta : Int32) :
    (max delta 0).toUInt32.toNat = (max delta.toInt 0).toNat := by
  have clamped : (max delta 0).toInt = max delta.toInt 0 := by
    change (if delta ≤ 0 then (0 : Int32) else delta).toInt = _
    split
    next small =>
      rw [Int32.le_iff_toInt_le] at small
      exact (max_eq_right small).symm
    next large =>
      rw [Int32.le_iff_toInt_le, not_le] at large
      exact (max_eq_left large.le).symm
  have cast : (max delta 0).toInt = _ := toInt_toInt32 (max delta 0).toUInt32
  have nonneg : 0 ≤ max delta.toInt 0 := le_max_right _ _
  have bound := (max delta 0).toUInt32.toNat_lt
  rw [clamped] at cast
  split at cast <;> omega

/-! ## The counter of a session -/

/-- A step of a session adds its turns, up to the size of the counter. -/
theorem turnCount_next (state : SessionState) (request : SessionRequest) :
    (sessionMachine.next state request).turnCount.toNat =
      (state.turnCount.toNat + request.turns) % 2 ^ 32 := by
  have small : state.turnCount.toNat = state.turnCount.toNat % 2 ^ 32 :=
    (Nat.mod_eq_of_lt state.turnCount.toNat_lt).symm
  have step := sessionMachine_step state request
  generalize sessionMachine.next state request = after at step ⊢
  cases step with
  | turn ambient request reply _ _ =>
      rw [turnCount_turnResult, UInt32.toNat_add, toNat_clamped]
      rfl
  | approve request target reply _ _ _ _ => exact small
  | block request reply _ _ _ => exact small
  | refuse ambient request reply _ _ _ => exact small
  | revisit ambient request target _ reply _ attempted _ _ =>
      rcases TransitionEngine.revisit_eq_ok.mp attempted with ⟨_, _, rfl⟩
      exact small

/-- And so does a run. -/
theorem turnCount_run (state : SessionState) (requests : List SessionRequest) :
    (sessionMachine.run state requests).turnCount.toNat =
      (state.turnCount.toNat + (requests.map SessionRequest.turns).sum) % 2 ^ 32 := by
  induction requests generalizing state with
  | nil => exact (Nat.mod_eq_of_lt state.turnCount.toNat_lt).symm
  | cons request requests ih =>
      rw [Machine.run_cons, ih, turnCount_next, List.map_cons, List.sum_cons, Nat.mod_add_mod,
        Nat.add_assoc]

theorem turnsFor_append (id : Uuid) (earlier later : List ServiceRequest) :
    turnsFor id (earlier ++ later) = turnsFor id earlier + turnsFor id later := by
  rw [turnsFor, List.filterMap_append, List.map_append, List.sum_append]
  rfl

/-- Where turns are added to a session, some request names it. -/
theorem exists_text_of_turnsFor {id : Uuid} {requests : List ServiceRequest}
    (turns : turnsFor id requests ≠ 0) : ∃ text, Runtime.parse text = some id := by
  by_contra unnamed
  apply turns
  have none_for : ∀ request ∈ requests, ServiceRequest.forSession id request = none := by
    intro request _
    have never : ∀ text, Runtime.parse text ≠ some id := fun text named => unnamed ⟨text, named⟩
    cases request <;> simp [ServiceRequest.forSession, never]
  rw [turnsFor, List.filterMap_eq_nil_iff.mpr none_for]
  rfl

section Counting

variable {service : StateEngineService} {id : Uuid} {state : SessionState}
  (stored : service.sessions id = some state) (fresh : state.turnCount = 0)
  {requests : List ServiceRequest} (spares : ∀ request ∈ requests, request.Spares id)

include stored fresh spares

/-- The counter of a new session after a run. -/
theorem exists_turnCount_run : ∃ after,
    (serviceMachine.run service requests).sessions id = some after ∧
      after.turnCount.toNat = turnsFor id requests % 2 ^ 32 := by
  refine ⟨_, sessions_run stored spares, ?_⟩
  rw [turnCount_run, fresh, turnsFor]
  exact congrArg (· % 2 ^ 32) (Nat.zero_add _)

/-- Without an overflow the sum fits the counter. -/
theorem turnsFor_lt_of_noOverflow
    (noOverflow : ∀ earlier request later, requests = earlier ++ request :: later →
      ∀ state, (serviceMachine.run service earlier).sessions id = some state →
        state.turnCount.toNat + turnsFor id [request] < 2 ^ 32) :
    turnsFor id requests < 2 ^ 32 := by
  induction requests using List.reverseRecOn with
  | nil => exact Nat.two_pow_pos 32
  | append_singleton requests request ih =>
      rw [List.forall_mem_append] at spares
      have before := ih spares.1 fun earlier other later parts =>
        noOverflow earlier other (later ++ [request]) (by simp [parts])
      rcases exists_turnCount_run stored fresh spares.1 with ⟨after, found, count⟩
      have last := noOverflow requests request [] rfl after found
      rw [count, Nat.mod_eq_of_lt before] at last
      rwa [turnsFor_append]

end Counting

/-- The turns of a new session are counted exactly when their sum fits a signed 32-bit
number, whatever other requests come between them. -/
theorem countsTurns_iff {service : StateEngineService} {id : Uuid} {now : DateTime}
    {workspaceId projectId : Uuid}
    (created : service.sessions id = some (.new id now workspaceId projectId))
    {requests : List ServiceRequest} (spares : ∀ request ∈ requests, request.Spares id) :
    CountsTurns service id requests ↔ turnsFor id requests < 2 ^ 31 := by
  rcases exists_turnCount_run created rfl spares with ⟨after, found, count⟩
  have reply : ∀ query : SessionQuery, Runtime.parse query.sessionId = some id →
      (serviceMachine.run service requests).getSessionState query = .ok (stateToProto after) := by
    intro query named
    rw [getSessionState, parseUuid, named]
    simp only [found]
  constructor
  · intro counts
    have bound := turnsFor_lt_of_noOverflow created rfl spares counts.noOverflow
    by_cases none' : turnsFor id requests = 0
    · rw [none']
      exact Nat.two_pow_pos 31
    · rcases exists_text_of_turnsFor none' with ⟨text, named⟩
      rcases counts.reported ⟨text, text⟩ named with ⟨proto, answered, exact'⟩
      rw [reply _ named, Except.ok.injEq] at answered
      rw [← answered] at exact'
      change after.turnCount.toInt32.toInt = _ at exact'
      rw [Nat.mod_eq_of_lt bound] at count
      rw [← count]
      exact (toInt_toInt32_eq_iff after.turnCount).mp (exact'.trans (by rw [count]))
  · intro small
    refine ⟨?_, ?_⟩
    · rintro earlier request later rfl before there
      rw [List.forall_mem_append] at spares
      rcases exists_turnCount_run created rfl spares.1 with ⟨state, here, counted⟩
      rw [here, Option.some.injEq] at there
      rw [← there, counted]
      rw [turnsFor_append, ← List.singleton_append, turnsFor_append] at small
      rw [Nat.mod_eq_of_lt (by omega)]
      omega
    · intro query named
      refine ⟨_, reply query named, ?_⟩
      rw [Nat.mod_eq_of_lt (by omega)] at count
      change after.turnCount.toInt32.toInt = _
      rw [← count] at small ⊢
      exact (toInt_toInt32_eq_iff after.turnCount).mpr small

end TurnCount

/-! ### A count that does not fit -/

section Sample

attribute [local instance] referenceRuntime

/-- A turn result that reports 2 ^ 30 turns. -/
def sampleBulk : ServiceRequest :=
  .applyTurnResult sampleAmbient
    { sessionId := "00000000-0000-0000-0000-0000000000a1"
      entities := []
      acUpdates := []
      costUsd := 0
      turnCountDelta := 1073741824 }

theorem sampleCreate_stored : (serviceMachine.run .new [sampleCreate]).sessions 0xA1 =
    some (.new 0xA1 1700000000000000000 0x40008000000000000001 0x40008000000000000002) := by
  decide +kernel

theorem sampleBulk_spares : ∀ request ∈ [sampleBulk, sampleBulk], request.Spares 0xA1 := by
  have one : sampleBulk.Spares 0xA1 := by
    intro state
    simp only [sampleBulk, ServiceRequest.command, addressed]
    split <;> simp
  rw [List.forall_mem_cons, List.forall_mem_singleton]
  exact ⟨one, one⟩

theorem countsTurns_iff_sampleBulk :
    CountsTurns (serviceMachine.run .new [sampleCreate]) 0xA1 [sampleBulk, sampleBulk] ↔
      turnsFor 0xA1 [sampleBulk, sampleBulk] < 2 ^ 31 :=
  countsTurns_iff sampleCreate_stored sampleBulk_spares

/-- Two such turn results are reported as a negative number of turns. -/
theorem not_countsTurns_of_sampleBulk :
    ¬∀ service id now workspaceId projectId requests,
      service.sessions id = some (.new id now workspaceId projectId) →
        (∀ request ∈ requests, ServiceRequest.Spares id request) →
          CountsTurns service id requests := by
  intro all
  have counts := all _ _ _ _ _ _ sampleCreate_stored sampleBulk_spares
  have named : Runtime.parse "00000000-0000-0000-0000-0000000000a1" = some (0xA1 : Uuid) := by
    decide +kernel
  rcases counts.reported ⟨_, ""⟩ named with ⟨proto, _, exact'⟩
  have total : turnsFor 0xA1 [sampleBulk, sampleBulk] = 2 ^ 31 := by decide +kernel
  have bound := proto.turnCount.toInt_lt
  omega

end Sample

end Chitragupt
