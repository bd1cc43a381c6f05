import Mathlib.Data.List.Forall2
import Chitragupt.StateMachine.Progress

/-!
# Readiness under added knowledge

A turn result whose AC updates all report met criteria only adds to a session.  What was
met or waived stays met or waived, with one exception: the criterion that every requirement
is linked to an actor fails as soon as an unlinked requirement arrives.  No requirement of a
running service is ever linked, so this criterion has nothing to lose.
-/

namespace Chitragupt

open Machines (Machine Store)
open StateEngineService

/-! ## Growth of a session -/

/-- The collections are extended at the end, and what is met or waived stays so. -/
structure Grows (before after : SessionState) : Prop where
  frame : after.withoutTurnFields = before.withoutTurnFields
  actors : before.actors <+: after.actors
  requirements : before.requirements <+: after.requirements
  constraints : before.constraints <+: after.constraints
  assumptions : before.assumptions <+: after.assumptions
  met : ∀ id ∈ before.acMet, id ∈ after.acMet
  waived : ∀ id ∈ before.acWaived, id ∈ after.acWaived ∨ id ∈ after.acMet

namespace Grows

theorem refl (state : SessionState) : Grows state state where
  frame := rfl
  actors := List.prefix_refl _
  requirements := List.prefix_refl _
  constraints := List.prefix_refl _
  assumptions := List.prefix_refl _
  met _ member := member
  waived _ member := .inl member

theorem trans {before middle after : SessionState} (first : Grows before middle)
    (second : Grows middle after) : Grows before after where
  frame := second.frame.trans first.frame
  actors := first.actors.trans second.actors
  requirements := first.requirements.trans second.requirements
  constraints := first.constraints.trans second.constraints
  assumptions := first.assumptions.trans second.assumptions
  met id member := second.met id (first.met id member)
  waived id member := by
    cases first.waived id member with
    | inl waived => exact second.waived id waived
    | inr met => exact .inr (second.met id met)

/-- A field that no turn writes. -/
theorem field {before after : SessionState} (grows : Grows before after) {α : Type}
    (view : SessionState → α) (kept : ∀ state, view state.withoutTurnFields = view state) :
    view after = view before := by
  rw [← kept after, grows.frame, kept before]

/-- An AC update that reports a met criterion. -/
theorem applyAcUpdate (now : DateTime) {update : AcUpdate} (met : update.met = true)
    (state : SessionState) : Grows state (state.applyAcUpdate now update) where
  frame := SessionState.withoutTurnFields_applyAcUpdate now update state
  actors := by
    rw [SessionState.applyAcUpdate, met]
    exact List.prefix_refl _
  requirements := by
    rw [SessionState.applyAcUpdate, met]
    exact List.prefix_refl _
  constraints := by
    rw [SessionState.applyAcUpdate, met]
    exact List.prefix_refl _
  assumptions := by
    rw [SessionState.applyAcUpdate, met]
    exact List.prefix_refl _
  met id member := by
    have recorded : id ∈ (state.ledger.update update.criterionId update.met).recorded := by
      rw [Ledger.mem_recorded_update]
      split
      · exact met
      · exact member
    rwa [← SessionState.ledger_applyAcUpdate now] at recorded
  waived id member := by
    by_cases same : id = update.criterionId
    · right
      have recorded : id ∈ (state.ledger.update update.criterionId update.met).recorded := by
        rw [Ledger.mem_recorded_update, if_pos same]
        exact met
      rwa [← SessionState.ledger_applyAcUpdate now] at recorded
    · left
      have kept : id ∈ (state.ledger.update update.criterionId update.met).waived := by
        rw [Ledger.mem_waived_update]
        exact ⟨member, fun equal => absurd equal same⟩
      rwa [← SessionState.ledger_applyAcUpdate now] at kept

section Turn

variable [Runtime]

theorem applyEntity {id : Uuid} {now : DateTime} {entity : ExtractedEntity}
    {state after : SessionState} (applied : state.applyEntity id now entity = .ok after) :
    Grows state after := by
  rcases SessionState.applyEntity_cases applied with
    ⟨_, rfl⟩ | ⟨_, rfl⟩ | ⟨_, rfl⟩ | ⟨_, _, rfl⟩ | ⟨_, _, rfl⟩ | ⟨_, rfl⟩
  · exact { refl state with frame := rfl, actors := List.prefix_append _ _ }
  · exact { refl state with frame := rfl, requirements := List.prefix_append _ _ }
  · exact { refl state with frame := rfl, constraints := List.prefix_append _ _ }
  · exact { refl state with frame := rfl, assumptions := List.prefix_append _ _ }
  · exact { refl state with frame := rfl }
  · exact { refl state with frame := rfl }

theorem acceptEntity (ambient : Ambient) (drawn : Nat) (proto : EntityProto)
    (state : SessionState) : Grows state (acceptEntity ambient drawn proto state) := by
  unfold StateEngineService.acceptEntity
  dsimp only
  split
  next applied accepted => exact applyEntity accepted
  next => exact refl state

theorem applyEntities (ambient : Ambient) (drawn : Nat) (protos : List EntityProto)
    (state : SessionState) : Grows state (applyEntities ambient drawn protos state) := by
  induction protos generalizing drawn state with
  | nil => exact refl state
  | cons proto protos ih =>
      exact (acceptEntity ambient drawn proto state).trans (ih (drawn + 1) _)

omit [Runtime] in
theorem applyAcUpdates (ambient : Ambient) (drawn : Nat) {protos : List AcUpdateProto}
    (met : ∀ proto ∈ protos, proto.met = true) (state : SessionState) :
    Grows state (applyAcUpdates ambient drawn protos state) := by
  induction protos generalizing drawn state with
  | nil => exact refl state
  | cons proto protos ih =>
      rw [List.forall_mem_cons] at met
      have first : Grows state (state.applyAcUpdate (ambient.now drawn) (protoToAcUpdate proto)) :=
        applyAcUpdate _ met.1 state
      exact first.trans (ih (drawn + 1) met.2 _)

/-- A turn result that reports only met criteria. -/
theorem turnResult (ambient : Ambient) {request : TurnResultRequest}
    (met : ∀ proto ∈ request.acUpdates, proto.met = true) (state : SessionState) :
    Grows state (turnResult ambient request state) := by
  have entities := applyEntities ambient 0 request.entities state
  have updates := applyAcUpdates ambient request.entities.length met
    (StateEngineService.applyEntities ambient 0 request.entities state)
  have grown := entities.trans updates
  exact { grown with frame := withoutTurnFields_turnResult ambient request state }

end Turn

end Grows

/-! ## The criteria of a grown session -/

/-- No requirement is linked to an actor. -/
def Unlinked (state : SessionState) : Prop :=
  ∀ requirement ∈ state.requirements, requirement.actorId = none

/-- The same criterion in two evaluations: if the field had it met, it still has, unless it is
now met explicitly. -/
def AcCheck.Kept (acMet : List String) (check later : AcCheck) : Prop :=
  later.id = check.id ∧ (check.fieldMet = true → later.fieldMet = true ∨ check.id ∈ acMet)

theorem AcCheck.Kept.refl (acMet : List String) (check : AcCheck) : check.Kept acMet check :=
  ⟨rfl, .inl⟩

section Checks

variable {before after : SessionState}

/-- A predicate that holds of a prefix member holds of a member. -/
theorem any_of_extended {α : Type} {values more : List α} (extended : values <+: more)
    {property : α → Bool} (holds : values.any property = true) : more.any property = true := by
  rw [List.any_eq_true] at holds ⊢
  rcases holds with ⟨value, member, true'⟩
  exact ⟨value, extended.subset member, true'⟩

theorem s2.checks_kept (grows : Grows before after) :
    List.Forall₂ (AcCheck.Kept after.acMet) (s2.checks before) (s2.checks after) := by
  have systems := grows.field (·.externalSystems) fun _ => rfl
  have success := grows.field (·.successDefinition) fun _ => rfl
  have regulatory := grows.field (·.regulatoryContext) fun _ => rfl
  have documents := grows.field (·.documentsIndexed) fun _ => rfl
  rw [s2.checks, s2.checks, systems, success, regulatory, documents]
  refine .cons ⟨rfl, fun two => .inl ?_⟩ (.cons ⟨rfl, fun maker => .inl ?_⟩
    (List.forall₂_same.mpr fun check _ => .refl _ check))
  · rw [decide_eq_true_iff] at two ⊢
    exact two.trans grows.actors.length_le
  · exact any_of_extended grows.actors maker

theorem s3.checks_kept (grows : Grows before after) (unlinked : Unlinked before) :
    List.Forall₂ (AcCheck.Kept after.acMet) (s3.checks before) (s3.checks after) := by
  have documents := grows.field (·.documentsIndexed) fun _ => rfl
  rw [s3.checks, s3.checks, documents]
  refine .cons ⟨rfl, fun five => .inl ?_⟩ (.cons ⟨rfl, fun quality => .inl ?_⟩
    (.cons ⟨rfl, fun linked => ?_⟩ (.cons (.refl _ _) (.cons (.refl _ _)
      (.cons ⟨rfl, fun gate => ?_⟩ (List.forall₂_same.mpr fun check _ => .refl _ check))))))
  · rw [decide_eq_true_iff] at five ⊢
    exact five.trans (grows.requirements.filter _).length_le
  · exact any_of_extended grows.requirements quality
  · -- Of an unlinked list only the empty one has all members linked.
    rw [Bool.and_eq_true, List.all_eq_true] at linked
    cases listed : before.requirements with
    | nil => simp [listed] at linked
    | cons requirement rest =>
        have member : requirement ∈ before.requirements := listed ▸ List.mem_cons_self
        have absent := linked.2 requirement member
        rw [unlinked requirement member] at absent
        cases absent
  · dsimp only at gate ⊢
    rw [Bool.or_eq_true] at gate ⊢
    cases gate with
    | inl present => exact .inl (.inl present)
    | inr waived =>
        rw [List.any_eq_true] at waived
        rcases waived with ⟨id, member, same⟩
        rw [beq_iff_eq] at same
        subst same
        cases grows.waived _ member with
        | inl still => exact .inl (.inr (List.any_eq_true.mpr ⟨_, still, beq_self_eq_true _⟩))
        | inr met => exact .inr met

theorem s4.checks_kept (grows : Grows before after) :
    List.Forall₂ (AcCheck.Kept after.acMet) (s4.checks before) (s4.checks after) := by
  have documents := grows.field (·.documentsIndexed) fun _ => rfl
  rw [s4.checks, s4.checks, documents]
  refine .cons ⟨rfl, fun budget => .inl (any_of_extended grows.constraints budget)⟩
    (.cons ⟨rfl, fun timeline => .inl (any_of_extended grows.constraints timeline)⟩
    (.cons ⟨rfl, fun technology => .inl (any_of_extended grows.constraints technology)⟩
    (.cons ⟨rfl, fun residency => .inl (any_of_extended grows.constraints residency)⟩
    (.cons ⟨rfl, fun listed => .inl ?_⟩
      (List.forall₂_same.mpr fun check _ => .refl _ check)))))
  cases assumed : after.assumptions with
  | nil =>
      have empty := grows.assumptions
      rw [assumed, List.prefix_nil] at empty
      simp [empty] at listed
  | cons assumption rest => rfl

/-- Growth keeps every check of every phase. -/
theorem SessionPhase.checks_kept (phase : SessionPhase) (grows : Grows before after)
    (unlinked : Unlinked before) :
    List.Forall₂ (AcCheck.Kept after.acMet) (phase.checks before) (phase.checks after) := by
  have same : ∀ checks : SessionState → List AcCheck,
      (∀ state, checks state.withoutTurnFields = checks state) →
        List.Forall₂ (AcCheck.Kept after.acMet) (checks before) (checks after) := by
    intro checks kept
    rw [grows.field checks kept]
    exact List.forall₂_same.mpr fun check _ => .refl _ check
  cases phase with
  | problemIntake => exact same s1.checks fun _ => rfl
  | stakeholderDiscovery => exact s2.checks_kept grows
  | requirementElicitation => exact s3.checks_kept grows unlinked
  | constraintCapture => exact s4.checks_kept grows
  | architectureAlignment => exact same s5.checks fun _ => rfl
  | reviewAndSignOff => exact same s6.checks fun _ => rfl
  | signedOff => exact .nil

/-- A kept criterion does not become unmet. -/
theorem AcCheck.Kept.status_ne_unmet (grows : Grows before after) {check later : AcCheck}
    (kept : check.Kept after.acMet later)
    (settled : check.status before.acMet before.acWaived ≠ .unmet) :
    later.status after.acMet after.acWaived ≠ .unmet := by
  intro unmet
  rw [AcCheck.status_eq_unmet, kept.1] at unmet
  apply settled
  rw [AcCheck.status_eq_unmet]
  refine ⟨?_, fun met => unmet.2.1 (grows.met _ met), fun waived => ?_⟩
  · rw [Bool.eq_false_iff]
    intro field
    cases kept.2 field with
    | inl still => simp [unmet.1] at still
    | inr met => exact unmet.2.1 met
  · cases grows.waived _ waived with
    | inl still => exact unmet.2.2 still
    | inr met => exact unmet.2.1 met

end Checks

/-! ## The evaluation of a grown session -/

/-- As many unmet criteria as checks with that status. -/
theorem AcResult.unmetCount_fromChecks (checks : List AcCheck) (acMet acWaived : List String) :
    (fromChecks checks acMet acWaived).unmetCount =
      (checks.filter (·.status acMet acWaived == .unmet)).length := by
  rw [unmetCount, fromChecks_criteria, List.filter_map, List.length_map]
  rfl

section Evaluation

variable {before after : SessionState}

/-- Checks that do not become unmet leave no more unmet ones. -/
theorem length_unmet_le {checks later : List AcCheck}
    (kept : List.Forall₂ (AcCheck.Kept after.acMet) checks later) (grows : Grows before after) :
    (later.filter (·.status after.acMet after.acWaived == .unmet)).length ≤
      (checks.filter (·.status before.acMet before.acWaived == .unmet)).length := by
  induction kept with
  | nil => exact le_rfl
  | @cons check check' rest rest' first _ ih =>
      by_cases settled : check.status before.acMet before.acWaived = .unmet
      · simp only [List.filter_cons, beq_iff_eq, settled, if_true, List.length_cons]
        split
        · exact Nat.succ_le_succ ih
        · exact Nat.le_succ_of_le ih
      · have still := first.status_ne_unmet grows settled
        simp only [List.filter_cons, beq_iff_eq, settled, still, if_false]
        exact ih

/-- Checks that do not become unmet stand in the way no more than before. -/
theorem forall_passed {checks later : List AcCheck}
    (kept : List.Forall₂ (AcCheck.Kept after.acMet) checks later) (grows : Grows before after)
    (passed : ∀ check ∈ checks, isOptional check.id = true ∨
      check.status before.acMet before.acWaived ≠ .unmet) :
    ∀ check ∈ later, isOptional check.id = true ∨
      check.status after.acMet after.acWaived ≠ .unmet := by
  induction kept with
  | nil =>
      intro check member
      cases member
  | cons first _ ih =>
      rw [List.forall_mem_cons] at passed ⊢
      constructor
      · cases passed.1 with
        | inl optional => exact .inl (first.1 ▸ optional)
        | inr settled => exact .inr (first.status_ne_unmet grows settled)
      · exact ih passed.2

/-- The evaluation of the phase loses neither readiness nor a criterion. -/
structure NoReadinessLost (before after : SessionState) : Prop where
  ready : (before.currentPhase.evaluateAc before).transitionReady = true →
    (after.currentPhase.evaluateAc after).transitionReady = true
  unmet : (after.currentPhase.evaluateAc after).unmetCount ≤
    (before.currentPhase.evaluateAc before).unmetCount

/-- A session without linked requirements loses nothing by growing. -/
theorem noReadinessLost_of_grows (grows : Grows before after) (unlinked : Unlinked before) :
    NoReadinessLost before after := by
  have phase : after.currentPhase = before.currentPhase :=
    grows.field (·.currentPhase) fun _ => rfl
  have kept := before.currentPhase.checks_kept grows unlinked
  by_cases working : before.currentPhase = .signedOff
  · constructor
    · rw [phase, working]
      exact id
    · rw [phase, working]
      exact le_rfl
  · constructor
    · rw [phase, SessionPhase.evaluateAc_eq working, SessionPhase.evaluateAc_eq working,
        AcResult.fromChecks_ready_iff, AcResult.fromChecks_ready_iff]
      exact forall_passed kept grows
    · rw [phase, SessionPhase.evaluateAc_eq working, SessionPhase.evaluateAc_eq working,
        AcResult.unmetCount_fromChecks, AcResult.unmetCount_fromChecks]
      exact length_unmet_le kept grows

end Evaluation

/-! ## Runs -/

section Runs

variable [Runtime]

theorem Unlinked.acceptEntity {state : SessionState} (unlinked : Unlinked state)
    (ambient : Ambient) (drawn : Nat) (proto : EntityProto) :
    Unlinked (acceptEntity ambient drawn proto state) := by
  intro requirement member
  rw [requirements_acceptEntity, List.mem_append] at member
  cases member with
  | inl old => exact unlinked requirement old
  | inr new =>
      split at new
      · rw [List.mem_singleton] at new
        rw [new]
        rfl
      · cases new

theorem Unlinked.applyEntities {state : SessionState} (unlinked : Unlinked state)
    (ambient : Ambient) (drawn : Nat) (protos : List EntityProto) :
    Unlinked (applyEntities ambient drawn protos state) := by
  induction protos generalizing drawn state with
  | nil => exact unlinked
  | cons proto protos ih => exact ih (unlinked.acceptEntity ambient drawn proto) (drawn + 1)

theorem Unlinked.turnResult {state : SessionState} (unlinked : Unlinked state)
    (ambient : Ambient) (request : TurnResultRequest) :
    Unlinked (turnResult ambient request state) := by
  have same : (StateEngineService.turnResult ambient request state).requirements =
      (StateEngineService.applyEntities ambient 0 request.entities state).requirements :=
    congrArg SessionState.Collections.requirements (collections_turnResult ambient request state)
  rw [Unlinked, same]
  exact unlinked.applyEntities ambient 0 request.entities

/-- No request links a requirement. -/
theorem Unlinked.next {state : SessionState} (unlinked : Unlinked state)
    (request : SessionRequest) : Unlinked (sessionMachine.next state request) := by
  have step := sessionMachine_step state request
  generalize sessionMachine.next state request = after at step ⊢
  generalize sessionMachine.reply state request = reply at step
  cases step with
  | turn ambient request _ _ _ => exact unlinked.turnResult ambient request
  | approve _ _ _ _ _ _ _ => exact unlinked
  | block _ _ _ _ _ => exact unlinked
  | refuse _ _ _ _ _ _ => exact unlinked
  | revisit ambient request target _ _ _ attempted _ _ =>
      rcases TransitionEngine.revisit_eq_ok.mp attempted with ⟨_, _, rfl⟩
      exact unlinked

theorem unlinked_of_run (requests : List ServiceRequest) :
    (serviceMachine.run .new requests).sessions.All Unlinked := by
  apply all_of_run
  · intro id now workspaceId projectId requirement member
    cases member
  · intro state request unlinked
    exact unlinked.next request

/-- In every run, a turn result that reports only met criteria loses no readiness. -/
theorem noReadinessLost_of_run (requests : List ServiceRequest) (ambient : Ambient)
    (request : TurnResultRequest) (id : Uuid) (before : SessionState)
    (named : Runtime.parse request.sessionId = some id)
    (present : (serviceMachine.run .new requests).sessions id = some before)
    (met : ∀ update ∈ request.acUpdates, update.met = true) :
    ∃ after, (serviceMachine.next (serviceMachine.run .new requests)
        (.applyTurnResult ambient request)).sessions id = some after ∧
      NoReadinessLost before after := by
  refine ⟨turnResult ambient request before, ?_, ?_⟩
  · rw [serviceMachine_refines, ServiceRequest.command, addressed, named]
    dsimp only
    rw [Store.perform_send_some present, Store.insert_self]
    rfl
  · exact noReadinessLost_of_grows (.turnResult ambient met before)
      (unlinked_of_run requests id before present)

end Runs

/-! ### A turn of a fresh session -/

section Sample

attribute [local instance] referenceRuntime

/-- A requirement, and the explicit confirmation of a criterion of the first phase. -/
def sampleConfirmation : TurnResultRequest where
  sessionId := "00000000-0000-0000-0000-0000000000a1"
  entities :=
    [{ entityType := "requirement", value := "Export to PDF", confidence := .finite 1,
       source := "conversation", sourceChunkIds := [] }]
  acUpdates := [{ criterionId := "AC-S1-01", met := true, evidence := "stated" }]
  costUsd := .finite 0
  turnCountDelta := 1

/-- The fresh session has one unmet criterion less. -/
theorem noReadinessLost_sampleConfirmation :
    ∃ before after,
      (serviceMachine.run .new [sampleCreate]).sessions 0xA1 = some before ∧
      (serviceMachine.next (serviceMachine.run .new [sampleCreate])
        (.applyTurnResult sampleAmbient sampleConfirmation)).sessions 0xA1 = some after ∧
      NoReadinessLost before after := by
  have present : (serviceMachine.run .new [sampleCreate]).sessions 0xA1 = some
      (.new 0xA1 1700000000000000000 0x00000000000040008000000000000001
        0x00000000000040008000000000000002) := by decide +kernel
  rcases noReadinessLost_of_run [sampleCreate] sampleAmbient sampleConfirmation 0xA1 _
    (by decide) present (by decide) with ⟨after, found, kept⟩
  exact ⟨_, after, present, found, kept⟩

end Sample

end Chitragupt
