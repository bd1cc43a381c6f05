import Chitragupt.Lib.LastChange
import Chitragupt.StateMachine.SessionRuns
import Chitragupt.StateMachine.TurnCount
import Mathlib.Data.Int.ConditionallyCompleteOrder

/-!
# The time of the last change of a session

Entities of a known type, AC updates and revisits read the clock, and approved transitions,
costs and turn counts do not.  So the stored time is the time of the last change as long as
every request that changes a session reads the clock, and every request that reads it
changes something.
-/

namespace Chitragupt

open Machines (Machine Event Store Command)
open StateEngineService

/-- Everything but the time of the last change. -/
def SessionState.timeless (state : SessionState) : SessionState := { state with updatedAt := 0 }

theorem SessionState.timeless_eq_iff {left right : SessionState} :
    left.timeless = right.timeless ↔
      left.withoutTurnFields = right.withoutTurnFields ∧ left.collections = right.collections ∧
        left.ledger = right.ledger ∧ left.totalLlmCostUsd = right.totalLlmCostUsd ∧
        left.turnCount = right.turnCount := by
  cases left
  cases right
  simp only [timeless, withoutTurnFields, collections, ledger, SessionState.mk.injEq,
    Collections.mk.injEq, Ledger.mk.injEq]
  tauto

section UpdatedAt

variable [Runtime]

/-! ## What reads the clock and what changes a session -/

/-- The turn result has an entity of a known type or an AC update. -/
def TurnResultRequest.Touches (request : TurnResultRequest) : Prop :=
  (∃ entity ∈ request.entities, entity.entityType ∈ SessionState.knownEntityTypes) ∨
    request.acUpdates ≠ []

/-- There is something new in the turn result: an entity that is not known yet, AC updates
that change the lists of criteria, a cost or a number of turns. -/
def TurnResultRequest.Changes (request : TurnResultRequest) (state : SessionState) : Prop :=
  (∃ entity ∈ request.entities, ¬state.collections.Idle entity.entityType entity.value) ∨
    state.ledger.updates (ledgerChanges request.acUpdates) ≠ state.ledger ∨
    state.totalLlmCostUsd + request.costUsd ≠ state.totalLlmCostUsd ∨
    0 < request.turnCountDelta

/-- The target of a revisit that succeeds. -/
def RevisitRequest.Revisits (request : RevisitRequest) (state : SessionState) : Prop :=
  ∃ target, parsePhase request.targetPhase = .ok target ∧ target ≠ .signedOff ∧
    target ≠ state.currentPhase

/-- The transition is approved. -/
def TransitionRequest.Granted (request : TransitionRequest) (state : SessionState) : Prop :=
  ∃ target, parsePhase request.targetPhase = .ok target ∧
    TransitionEngine.attempt state target = .ok ()

namespace SessionRequest

/-- The request writes the time of the last change. -/
def Touches (state : SessionState) : SessionRequest → Prop
  | .applyTurnResult _ request => request.Touches
  | .requestTransition _ => False
  | .revisitPhase _ request => request.Revisits state

/-- The request writes something else. -/
def Changes (state : SessionState) : SessionRequest → Prop
  | .applyTurnResult _ request => request.Changes state
  | .requestTransition request => request.Granted state
  | .revisitPhase _ request => request.Revisits state

/-- All clock readings of the request lie in the window. -/
def Reads (window : Window DateTime) : SessionRequest → Prop
  | .applyTurnResult ambient _ | .revisitPhase ambient _ =>
      ∀ drawn, window.Contains (ambient.now drawn)
  | .requestTransition _ => True

end SessionRequest

/-! ## One request -/

/-- An entity of a known type takes a clock reading. -/
theorem updatedAt_acceptEntity (ambient : Ambient) (drawn : Nat) (proto : EntityProto)
    (state : SessionState) :
    (acceptEntity ambient drawn proto state).updatedAt =
      if proto.entityType ∈ SessionState.knownEntityTypes then ambient.now drawn
      else state.updatedAt := by
  have refused := @SessionState.applyEntity_eq_error_iff _ (ambient.newV4 drawn)
    (ambient.now drawn) (protoToEntity proto) state
  change _ ↔ proto.entityType ∉ _ at refused
  rw [acceptEntity]
  cases applied : state.applyEntity (ambient.newV4 drawn) (ambient.now drawn)
      (protoToEntity proto) with
  | error error =>
      rw [applied] at refused
      exact (if_neg (refused.mp ⟨error, rfl⟩)).symm
  | ok after =>
      rw [applied] at refused
      rw [if_pos (not_not.mp (mt refused.mpr fun ⟨error, failed⟩ => nomatch failed))]
      rcases SessionState.applyEntity_cases applied with
        ⟨_, rfl⟩ | ⟨_, rfl⟩ | ⟨_, rfl⟩ | ⟨_, _, rfl⟩ | ⟨_, _, rfl⟩ | ⟨_, rfl⟩ <;> rfl

/-- The last entity of a known type decides. -/
theorem updatedAt_applyEntities (ambient : Ambient) (drawn : Nat) (protos : List EntityProto)
    (state : SessionState) :
    ((∃ proto ∈ protos, proto.entityType ∈ SessionState.knownEntityTypes) ∧
      ∃ reading, (applyEntities ambient drawn protos state).updatedAt = ambient.now reading) ∨
    ((∀ proto ∈ protos, proto.entityType ∉ SessionState.knownEntityTypes) ∧
      (applyEntities ambient drawn protos state).updatedAt = state.updatedAt) := by
  induction protos generalizing drawn state with
  | nil => exact .inr ⟨nofun, rfl⟩
  | cons proto protos ih =>
      rw [applyEntities, List.forall_mem_cons]
      rcases ih (drawn + 1) (acceptEntity ambient drawn proto state) with
        ⟨⟨other, member, known⟩, read⟩ | ⟨unknown, same⟩
      · exact .inl ⟨⟨other, List.mem_cons_of_mem _ member, known⟩, read⟩
      · rw [same, updatedAt_acceptEntity]
        by_cases known : proto.entityType ∈ SessionState.knownEntityTypes
        · rw [if_pos known]
          exact .inl ⟨⟨proto, List.mem_cons_self, known⟩, drawn, rfl⟩
        · rw [if_neg known]
          exact .inr ⟨⟨known, unknown⟩, rfl⟩

omit [Runtime] in
/-- Every AC update takes a clock reading. -/
theorem updatedAt_applyAcUpdates (ambient : Ambient) (drawn : Nat) (protos : List AcUpdateProto)
    (state : SessionState) :
    (protos ≠ [] ∧
      ∃ reading, (applyAcUpdates ambient drawn protos state).updatedAt = ambient.now reading) ∨
    (protos = [] ∧ (applyAcUpdates ambient drawn protos state).updatedAt = state.updatedAt) := by
  induction protos generalizing drawn state with
  | nil => exact .inr ⟨rfl, rfl⟩
  | cons proto protos ih =>
      refine .inl ⟨List.cons_ne_nil _ _, ?_⟩
      rw [applyAcUpdates]
      rcases ih (drawn + 1) (state.applyAcUpdate (ambient.now drawn) (protoToAcUpdate proto)) with
        ⟨_, read⟩ | ⟨_, same⟩
      · exact read
      · exact ⟨drawn, same⟩

/-- A turn result takes a clock reading exactly when it touches the session. -/
theorem updatedAt_turnResult (ambient : Ambient) (request : TurnResultRequest)
    (state : SessionState) :
    (request.Touches ∧
      ∃ reading, (turnResult ambient request state).updatedAt = ambient.now reading) ∨
    (¬request.Touches ∧ (turnResult ambient request state).updatedAt = state.updatedAt) := by
  have stored : (turnResult ambient request state).updatedAt =
      (applyAcUpdates ambient request.entities.length request.acUpdates
        (applyEntities ambient 0 request.entities state)).updatedAt := rfl
  rw [stored, TurnResultRequest.Touches]
  rcases updatedAt_applyAcUpdates ambient request.entities.length request.acUpdates
    (applyEntities ambient 0 request.entities state) with ⟨updates, read⟩ | ⟨none', same⟩
  · exact .inl ⟨.inr updates, read⟩
  · rw [same]
    rcases updatedAt_applyEntities ambient 0 request.entities state with
      ⟨known, read⟩ | ⟨unknown, kept⟩
    · exact .inl ⟨.inl known, read⟩
    · refine .inr ⟨?_, kept⟩
      rintro (⟨entity, member, known⟩ | updates)
      · exact unknown entity member known
      · exact updates none'

/-- And it changes something else exactly when there is something new in it. -/
theorem timeless_turnResult_ne_iff (ambient : Ambient) (request : TurnResultRequest)
    (state : SessionState) :
    (turnResult ambient request state).timeless ≠ state.timeless ↔ request.Changes state := by
  rw [TurnResultRequest.Changes, ← not_iff_not, ne_eq, not_not, SessionState.timeless_eq_iff,
    collections_turnResult, collections_applyEntities_eq_iff, ledger_turnResult,
    totalLlmCostUsd_turnResult, turnCount_turnResult]
  have turns : state.turnCount + (max request.turnCountDelta 0).toUInt32 = state.turnCount ↔
      ¬0 < request.turnCountDelta := by
    have counted := toNat_clamped request.turnCountDelta
    rw [Int32.lt_iff_toInt_lt, ← UInt32.toNat_inj, UInt32.toNat_add, counted]
    have bound := request.turnCountDelta.toInt_lt
    have small := state.turnCount.toNat_lt
    have zero : (0 : Int32).toInt = 0 := rfl
    omega
  rw [turns]
  simp only [withoutTurnFields_turnResult, true_and, not_or, not_exists, not_and, not_not]

/-- What a request does to the time of the last change. -/
theorem updatedAt_next {window : Window DateTime} (state : SessionState)
    {request : SessionRequest} (reads : request.Reads window) :
    (request.Touches state ∧
      window.Contains (sessionMachine.next state request).updatedAt) ∨
    (¬request.Touches state ∧
      (sessionMachine.next state request).updatedAt = state.updatedAt) := by
  have step := sessionMachine_step state request
  generalize sessionMachine.next state request = after at step ⊢
  cases step with
  | turn ambient request reply _ _ =>
      rcases updatedAt_turnResult ambient request state with ⟨touches, reading, read⟩ | idle
      · refine .inl ⟨touches, ?_⟩
        rw [read]
        exact reads reading
      · exact .inr idle
  | approve request target reply _ _ _ _ => exact .inr ⟨not_false, rfl⟩
  | block request reply _ _ _ => exact .inr ⟨not_false, rfl⟩
  | revisit ambient request target _ reply parsed attempted _ _ =>
      rcases TransitionEngine.revisit_eq_ok.mp attempted with ⟨notFinal, different, rfl⟩
      exact .inl ⟨⟨target, parsed, notFinal, different⟩, reads 1⟩
  | refuse ambient request reply refused _ _ =>
      refine .inr ⟨?_, rfl⟩
      rintro ⟨target, parsed, notFinal, different⟩
      exact refused target parsed _
        (TransitionEngine.revisit_eq_ok.mpr ⟨notFinal, different, rfl⟩)

/-- When a request changes something else. -/
theorem timeless_next_ne_iff (state : SessionState) (request : SessionRequest) :
    (sessionMachine.next state request).timeless ≠ state.timeless ↔ request.Changes state := by
  have moved : ∀ after : SessionState, after.currentPhase ≠ state.currentPhase →
      after.timeless ≠ state.timeless := by
    intro after phase same
    have phases := congrArg SessionState.currentPhase same
    exact phase phases
  have step := sessionMachine_step state request
  generalize sessionMachine.next state request = after at step ⊢
  cases step with
  | turn ambient request reply _ _ => exact timeless_turnResult_ne_iff ambient request state
  | approve request target reply parsed attempted _ _ =>
      have edge := (TransitionEngine.attempt_eq_ok.mp attempted).1
      refine iff_of_true (moved _ fun same => ?_) ⟨target, parsed, attempted⟩
      have next := SessionPhase.position_of_mem_validTransitions edge
      change target = _ at same
      rw [same] at next
      omega
  | block request reply refused _ _ =>
      refine iff_of_false (fun different => different rfl) ?_
      rintro ⟨target, parsed, granted⟩
      exact refused target parsed granted
  | revisit ambient request target _ reply parsed attempted _ _ =>
      rcases TransitionEngine.revisit_eq_ok.mp attempted with ⟨notFinal, different, rfl⟩
      exact iff_of_true (moved _ different) ⟨target, parsed, notFinal, different⟩
  | refuse ambient request reply refused _ _ =>
      refine iff_of_false (fun different => different rfl) ?_
      rintro ⟨target, parsed, notFinal, different⟩
      exact refused target parsed _
        (TransitionEngine.revisit_eq_ok.mpr ⟨notFinal, different, rfl⟩)

/-! ## Runs with a clock -/

/-- All clock readings of the request lie in the window. -/
def ServiceRequest.Reads (window : Window DateTime) : ServiceRequest → Prop
  | .createSession ambient _ | .applyTurnResult ambient _ | .revisitPhase ambient _ =>
      ∀ drawn, window.Contains (ambient.now drawn)
  | .getSessionState _ | .requestTransition _ => True

theorem ServiceRequest.Reads.forSession {window : Window DateTime} {request : ServiceRequest}
    (reads : request.Reads window) {id : Uuid} {input : SessionRequest}
    (sent : request.forSession id = some input) : input.Reads window := by
  cases request with
  | createSession ambient request => cases sent
  | getSessionState request => cases sent
  | applyTurnResult ambient request =>
      rw [ServiceRequest.forSession, Option.ite_none_right_eq_some] at sent
      rw [← Option.some.inj sent.2]
      exact reads
  | requestTransition request =>
      rw [ServiceRequest.forSession, Option.ite_none_right_eq_some] at sent
      rw [← Option.some.inj sent.2]
      exact trivial
  | revisitPhase ambient request =>
      rw [ServiceRequest.forSession, Option.ite_none_right_eq_some] at sent
      rw [← Option.some.inj sent.2]
      exact reads

/-- An RPC with the time that it takes. -/
structure TimedRequest where
  window : Window DateTime
  request : ServiceRequest
  reads : request.Reads window

/-- The service, with the time of every RPC. -/
def timedMachine : Machine StateEngineService TimedRequest ServiceReply where
  step service timed := serviceMachine.step service timed.request

abbrev TimedEvent := Event StateEngineService TimedRequest ServiceReply

/-- The RPC creates the session, or changes a field of it other than the time. -/
def TimedEvent.Changes (id : Uuid) (event : TimedEvent) : Prop :=
  (∃ fresh, event.input.request.command = .create id fresh) ∨
    (event.after.sessions id).map SessionState.timeless ≠
      (event.before.sessions id).map SessionState.timeless

/-- The stored time of every session is the time of the last RPC that changed it. -/
def MarksLastChange (events : List TimedEvent) (service : StateEngineService) : Prop :=
  ∀ id state, service.sessions id = some state →
    LastChange.Marks (TimedEvent.Changes id) (fun event => event.input.window) events
      state.updatedAt

/-- The request keeps the time of the last change right: a turn result touches the session
exactly when there is something new in it, and no transition is approved. -/
def SessionRequest.KeepsTime (state : SessionState) : SessionRequest → Prop
  | .applyTurnResult _ request => request.Touches ↔ request.Changes state
  | .requestTransition request => ¬request.Granted state
  | .revisitPhase _ _ => True

theorem SessionRequest.keepsTime_iff {state : SessionState} {request : SessionRequest} :
    request.KeepsTime state ↔ (request.Touches state ↔ request.Changes state) := by
  cases request with
  | applyTurnResult ambient request => exact Iff.rfl
  | requestTransition request => exact (false_iff _).symm.to_iff
  | revisitPhase ambient request => exact (iff_self _).symm.to_iff

/-- Every session that the RPC is addressed to keeps its time right. -/
def TimedRequest.KeepsTime (service : StateEngineService) (timed : TimedRequest) : Prop :=
  ∀ id state input, service.sessions id = some state →
    timed.request.forSession id = some input → input.KeepsTime state

/-- A created session carries the time of its creation. -/
theorem contains_of_create {timed : TimedRequest} {id : Uuid} {fresh : SessionState}
    (created : timed.request.command = .create id fresh) :
    timed.window.Contains fresh.updatedAt := by
  rcases timed with ⟨window, request, reads⟩
  rcases ServiceRequest.eq_new_of_command created with ⟨ambient, _, _, _, rfl, rfl⟩
  exact reads 0

/-- A session that is not created changes by the requests addressed to it. -/
theorem changes_iff {service : StateEngineService} {timed : TimedRequest} {id : Uuid}
    {state : SessionState} (stored : service.sessions id = some state)
    (spares : timed.request.Spares id) :
    TimedEvent.Changes id (timedMachine.event service timed) ↔
      ∃ input, timed.request.forSession id = some input ∧ input.Changes state := by
  have after := sessions_next stored spares
  change (timedMachine.next service timed).sessions id = _ at after
  have never : ¬∃ fresh, timed.request.command = .create id fresh :=
    fun ⟨fresh, created⟩ => spares fresh created
  rw [TimedEvent.Changes]
  dsimp only [Machine.event]
  rw [or_iff_right never]
  simp only [after, stored, Option.map_some, ne_eq, Option.some.injEq]
  cases sent : timed.request.forSession id with
  | none => simp
  | some input => simpa using timeless_next_ne_iff state input

/-- One RPC that keeps the time right. -/
theorem MarksLastChange.next {events : List TimedEvent} {service : StateEngineService}
    {timed : TimedRequest} (keeps : timed.KeepsTime service)
    (marks : MarksLastChange events service) :
    MarksLastChange (events ++ [timedMachine.event service timed])
      (timedMachine.next service timed) := by
  intro id after stored
  change (serviceMachine.next service timed.request).sessions id = _ at stored
  by_cases creates : ∃ fresh, timed.request.command = .create id fresh
  · rcases creates with ⟨fresh, created⟩
    rw [serviceMachine_refines, created, Store.perform_create, Store.insert_self,
      Option.some.injEq] at stored
    rw [LastChange.marks_concat_of_change (.inl ⟨fresh, created⟩), ← stored]
    exact contains_of_create created
  · have spares : timed.request.Spares id := fun fresh created => creates ⟨fresh, created⟩
    obtain ⟨state, found⟩ : ∃ state, service.sessions id = some state := by
      rw [serviceMachine_refines] at stored
      rcases Store.perform_eq_some stored with created | found | ⟨_, state, _, found, _⟩
      · exact absurd created (spares after)
      · exact ⟨after, found⟩
      · exact ⟨state, found⟩
    rw [sessions_next found spares, Option.some.injEq] at stored
    have changes := changes_iff found spares
    cases sent : timed.request.forSession id with
    | none =>
        rw [sent] at stored changes
        rw [LastChange.marks_concat_of_not_change (mt changes.mp (by simp)), ← stored]
        exact marks id state found
    | some input =>
        rw [sent] at stored changes
        simp only [Option.some.injEq, exists_eq_left'] at changes
        have right := SessionRequest.keepsTime_iff.mp (keeps id state input found sent)
        rw [← stored]
        rcases updatedAt_next state (timed.reads.forSession sent) with
          ⟨touches, read⟩ | ⟨idle, same⟩
        · exact (LastChange.marks_concat_of_change (changes.mpr (right.mp touches))).mpr read
        · rw [LastChange.marks_concat_of_not_change (mt changes.mp (mt right.mpr idle))]
          change LastChange.Marks _ _ _ (sessionMachine.next state input).updatedAt
          rw [same]
          exact marks id state found

/-- With a clock that goes on between the RPCs, no other RPC leaves the time right. -/
theorem MarksLastChange.keepsTime {events : List TimedEvent} {service : StateEngineService}
    {timed : TimedRequest} (before : MarksLastChange events service)
    (after : MarksLastChange (events ++ [timedMachine.event service timed])
      (timedMachine.next service timed))
    (strict : ∀ event ∈ events, event.input.window.Before timed.window) :
    timed.KeepsTime service := by
  intro id state input found sent
  have spares : timed.request.Spares id := by
    intro fresh created
    rw [ServiceRequest.command_eq_send_iff.mpr sent] at created
    cases created
  have changes := changes_iff found spares
  have stored := sessions_next found spares
  rw [sent] at changes stored
  simp only [Option.some.injEq, exists_eq_left'] at changes
  have marked := after id _ stored
  change LastChange.Marks _ _ _ (sessionMachine.next state input).updatedAt at marked
  rw [SessionRequest.keepsTime_iff]
  rcases updatedAt_next state (timed.reads.forSession sent) with ⟨touches, read⟩ | ⟨idle, same⟩
  · refine iff_of_true touches ?_
    by_contra unchanged
    rw [LastChange.marks_concat_of_not_change (mt changes.mp unchanged)] at marked
    rcases marked.exists_contains with ⟨event, member, early⟩
    exact (strict event member).not_contains early read
  · refine iff_of_false idle ?_
    intro changed
    rw [LastChange.marks_concat_of_change (changes.mpr changed), same] at marked
    rcases (before id state found).exists_contains with ⟨event, member, early⟩
    exact (strict event member).not_contains early marked

/-- In a run whose requests all keep the time right, every session carries the time of its
last change in every state reached.  When the clock goes on between the RPCs, only such runs
have this property. -/
theorem marksLastChange_of_run (requests : List TimedRequest) :
    (timedMachine.Meets (fun service timed => timed.KeepsTime service) .new requests →
      ∀ earlier later, requests = earlier ++ later →
        MarksLastChange (timedMachine.trace .new earlier) (timedMachine.run .new earlier)) ∧
    (requests.Pairwise (fun first second => first.window.Before second.window) →
      (∀ earlier later, requests = earlier ++ later →
        MarksLastChange (timedMachine.trace .new earlier) (timedMachine.run .new earlier)) →
      timedMachine.Meets (fun service timed => timed.KeepsTime service) .new requests) := by
  constructor
  · rintro meets earlier later rfl
    apply Machine.history_run timedMachine _ _ ((Machine.meets_append _).mp meets).1
    · intro id state stored
      simp [StateEngineService.new, Store.empty] at stored
    · intro events service timed keeps marks
      exact marks.next keeps
  · intro ordered marks event member
    rcases (Machine.mem_trace _).mp member with ⟨earlier, timed, later, rfl, rfl⟩
    have before := marks earlier (timed :: later) rfl
    have after := marks (earlier ++ [timed]) later (by simp)
    rw [Machine.trace_append, Machine.run_append] at after
    apply before.keepsTime after
    intro event happened
    rcases (Machine.mem_trace _).mp happened with ⟨first, input, rest, rfl, rfl⟩
    rw [List.pairwise_append] at ordered
    exact ordered.2.2 input (List.mem_append_right _ List.mem_cons_self) timed
      List.mem_cons_self

end UpdatedAt

/-! ### A turn that only costs -/

section Sample

attribute [local instance] referenceRuntime

/-- The creation of a session. -/
def sampleCreation : TimedRequest where
  window := ⟨1700000000000000000, 1700000000000000000, le_rfl⟩
  request := sampleCreate
  reads _ := ⟨le_rfl, le_rfl⟩

/-- The same environment a minute later. -/
def sampleLater : Ambient := { sampleAmbient with now := fun _ => 1700000060000000000 }

/-- A turn without entities and AC updates. -/
def sampleCost : TurnResultRequest where
  sessionId := "00000000-0000-0000-0000-0000000000a1"
  entities := []
  acUpdates := []
  costUsd := .finite (1 / 10)
  turnCountDelta := 1

def sampleCosts : TimedRequest where
  window := ⟨1700000060000000000, 1700000060000000000, le_rfl⟩
  request := .applyTurnResult sampleLater sampleCost
  reads _ := ⟨le_rfl, le_rfl⟩

/-- The turn changes the session and does not read the clock. -/
theorem sampleCosts_not_keepsTime :
    ¬sampleCosts.KeepsTime (timedMachine.run .new [sampleCreation]) := by
  intro keeps
  have named : Runtime.parse sampleCost.sessionId = some (0xA1 : Uuid) := by decide +kernel
  have sent : sampleCosts.request.forSession 0xA1 =
      some (.applyTurnResult sampleLater sampleCost) := by
    simp only [sampleCosts, ServiceRequest.forSession, named, if_true]
  have right := keeps 0xA1 _ _ sampleCreate_stored sent
  have touches := right.mpr (.inr (.inr (.inr (by decide))))
  simp [TurnResultRequest.Touches, sampleCost] at touches

/-- The time of the session stays that of its creation. -/
theorem not_marksLastChange_of_sampleCosts :
    ¬∀ requests : List TimedRequest,
      requests.Pairwise (fun first second => first.window.ends ≤ second.window.starts) →
        MarksLastChange (timedMachine.trace .new requests) (timedMachine.run .new requests) := by
  intro all
  have before := all [sampleCreation] (List.pairwise_singleton _ _)
  have after := all [sampleCreation, sampleCosts] (by simp [sampleCreation, sampleCosts])
  apply sampleCosts_not_keepsTime
  apply before.keepsTime after
  intro event member
  rcases List.mem_singleton.mp member with rfl
  change (1700000000000000000 : DateTime) < 1700000060000000000
  decide

end Sample

end Chitragupt
