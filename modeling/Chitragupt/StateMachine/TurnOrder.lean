import Mathlib.Data.Multiset.Basic
import Chitragupt.StateMachine.Growth

/-!
# The order of two turn results

What a session holds, apart from the order of its lists, generated identifiers and
timestamps, is its content.  A turn result acts on the content: entities are added one by
one, and the AC updates count by the last update of each criterion.  Two turn results whose
last updates agree can be applied in either order.
-/

namespace Chitragupt

open Machines (Machine Store)
open StateEngineService

/-! ## The content of a session -/

/-- What the entities of a session amount to. -/
structure Knowledge where
  actors : Multiset Actor
  requirements : Multiset DraftRequirement
  constraints : Multiset DraftConstraint
  assumptions : Set String
  openQuestions : Set String

/-- A session up to the order of its lists, generated identifiers and the time of its last
change. -/
@[ext] structure SessionContent where
  frame : SessionState
  knowledge : Knowledge
  acMet : Set String
  acWaived : Set String
  totalLlmCostUsd : ExactFloat
  turnCount : UInt32

def Actor.anonymous (actor : Actor) : Actor := { actor with id := 0 }

def DraftRequirement.anonymous (requirement : DraftRequirement) : DraftRequirement :=
  { requirement with id := "" }

def DraftConstraint.anonymous (constraint : DraftConstraint) : DraftConstraint :=
  { constraint with id := "" }

def SessionState.knowledge (state : SessionState) : Knowledge where
  actors := state.actors.map Actor.anonymous
  requirements := state.requirements.map DraftRequirement.anonymous
  constraints := state.constraints.map DraftConstraint.anonymous
  assumptions := { value | value ∈ state.assumptions }
  openQuestions := { value | value ∈ state.openQuestions }

def SessionState.content (state : SessionState) : SessionContent where
  frame := state.withoutTurnFields
  knowledge := state.knowledge
  acMet := { id | id ∈ state.acMet }
  acWaived := { id | id ∈ state.acWaived }
  totalLlmCostUsd := state.totalLlmCostUsd
  turnCount := state.turnCount

section TurnOrder

variable [Runtime]

/-- What one entity adds. -/
def Knowledge.add (knowledge : Knowledge) (proto : EntityProto) : Knowledge :=
  match proto.entityType with
  | "actor" =>
      { knowledge with
        actors := (Actor.fromEntityValue 0 proto.value).anonymous ::ₘ knowledge.actors }
  | "requirement" =>
      { knowledge with
        requirements :=
          (DraftRequirement.fromEntity 0 (protoToEntity proto)).anonymous ::ₘ
            knowledge.requirements }
  | "constraint" =>
      { knowledge with
        constraints :=
          (DraftConstraint.fromEntityValue 0 proto.value).anonymous ::ₘ
            knowledge.constraints }
  | "assumption" =>
      { knowledge with assumptions := insert proto.value knowledge.assumptions }
  | "gap" =>
      { knowledge with openQuestions := insert proto.value knowledge.openQuestions }
  | _ => knowledge

/-- What a turn result makes of the content. -/
def SessionContent.absorb (content : SessionContent) (request : TurnResultRequest) :
    SessionContent :=
  let changes := ledgerChanges request.acUpdates
  { content with
    knowledge := request.entities.foldl Knowledge.add content.knowledge
    acMet := { id | (Ledger.lastFlag id changes).elim (id ∈ content.acMet) (· = true) }
    acWaived := { id | id ∈ content.acWaived ∧ (id, true) ∉ changes }
    totalLlmCostUsd := content.totalLlmCostUsd + request.costUsd
    turnCount := content.turnCount + (max request.turnCountDelta 0).toUInt32 }

/-! ## Turn results commute on the content -/

/-- Two entities may be added in either order. -/
theorem Knowledge.add_right_comm (knowledge : Knowledge) (left right : EntityProto) :
    (knowledge.add left).add right = (knowledge.add right).add left := by
  unfold Knowledge.add
  split <;> split <;> simp [Multiset.cons_swap, Set.insert_comm]

instance : RightCommutative Knowledge.add := ⟨Knowledge.add_right_comm⟩

theorem Knowledge.foldl_add_swap (knowledge : Knowledge) (left right : List EntityProto) :
    right.foldl Knowledge.add (left.foldl Knowledge.add knowledge) =
      left.foldl Knowledge.add (right.foldl Knowledge.add knowledge) := by
  rw [← List.foldl_append, ← List.foldl_append]
  exact List.perm_append_comm.foldl_eq knowledge

/-- For every criterion that both turn results mention, their last updates agree on `met`. -/
def LastUpdatesAgree (left right : TurnResultRequest) : Prop :=
  Ledger.AgreeOnLast (ledgerChanges left.acUpdates) (ledgerChanges right.acUpdates)

omit [Runtime] in
/-- What happens to an optional flag after another one. -/
theorem elim_elim_eq_elim_or (earlier later : Option Bool) (before : Prop) :
    later.elim (earlier.elim before (· = true)) (· = true) =
      (later.or earlier).elim before (· = true) := by
  cases later <;> rfl

/-- Two turn results may be absorbed in either order when sums are exact. -/
theorem SessionContent.absorb_right_comm (exact : FloatRounding.ExactSums)
    {left right : TurnResultRequest} (agree : LastUpdatesAgree left right)
    (content : SessionContent) :
    (content.absorb left).absorb right = (content.absorb right).absorb left := by
  apply SessionContent.ext
  · rfl
  · exact Knowledge.foldl_add_swap content.knowledge left.entities right.entities
  · ext id
    change Option.elim _ (Option.elim _ _ _) _ ↔ Option.elim _ (Option.elim _ _ _) _
    rw [elim_elim_eq_elim_or, elim_elim_eq_elim_or, ← Ledger.lastFlag_append,
      ← Ledger.lastFlag_append, Ledger.lastFlag_swap agree]
  · ext id
    exact and_right_comm
  · exact ExactFloat.add_right_comm exact content.totalLlmCostUsd left.costUsd right.costUsd
  · change _ + _ + _ = _ + _ + _
    rw [UInt32.add_assoc, UInt32.add_assoc, UInt32.add_comm (Int32.toUInt32 _)]

/-! ## A turn result acts on the content -/

omit [Runtime] in
/-- A repeated member adds nothing to the set of members. -/
theorem insert_mem_eq {values : List String} {value : String} (repeated : value ∈ values) :
    insert value { other | other ∈ values } = { other | other ∈ values } :=
  Set.insert_eq_of_mem repeated

omit [Runtime] in
/-- A member at the end of a list. -/
theorem setOf_mem_concat (values : List String) (value : String) :
    { other | other ∈ values ++ [value] } = insert value { other | other ∈ values } := by
  ext other
  simp [or_comm]

omit [Runtime] in
/-- A member at the end of a list, up to the order. -/
theorem coe_map_concat {α : Type} (anonymous : α → α) (values : List α) (value : α) :
    (((values ++ [value]).map anonymous : List α) : Multiset α) =
      anonymous value ::ₘ (values.map anonymous : List α) := by
  rw [List.map_append, Multiset.cons_coe, Multiset.coe_eq_coe]
  exact List.perm_append_singleton (anonymous value) (values.map anonymous)

omit [Runtime] in
theorem Actor.anonymous_fromEntityValue (id : Uuid) (value : String) :
    (fromEntityValue id value).anonymous = (fromEntityValue 0 value).anonymous := by
  unfold fromEntityValue
  dsimp only
  split <;> rfl

/-- An accepted entity is added to the knowledge of the session. -/
theorem knowledge_applyEntity {id : Uuid} {now : DateTime} {proto : EntityProto}
    {state after : SessionState}
    (applied : state.applyEntity id now (protoToEntity proto) = .ok after) :
    after.knowledge = state.knowledge.add proto := by
  rcases SessionState.applyEntity_cases applied with
    ⟨type, rfl⟩ | ⟨type, rfl⟩ | ⟨type, rfl⟩ | ⟨type, _, rfl⟩ | ⟨type, _, rfl⟩ |
      ⟨⟨type, repeated⟩ | ⟨type, repeated⟩, rfl⟩
  all_goals
    change proto.entityType = _ at type
    simp only [Knowledge.add, type, SessionState.knowledge, coe_map_concat, setOf_mem_concat]
  · rw [Actor.anonymous_fromEntityValue]
    rfl
  · rfl
  · rfl
  · rfl
  · rfl
  · change proto.value ∈ _ at repeated
    rw [insert_mem_eq repeated]
  · change proto.value ∈ _ at repeated
    rw [insert_mem_eq repeated]

theorem knowledge_acceptEntity (ambient : Ambient) (drawn : Nat) (proto : EntityProto)
    (state : SessionState) :
    (acceptEntity ambient drawn proto state).knowledge = state.knowledge.add proto := by
  unfold acceptEntity
  dsimp only
  split
  next applied accepted => exact knowledge_applyEntity accepted
  next error refused =>
    have unknown : proto.entityType ∉ SessionState.knownEntityTypes :=
      SessionState.applyEntity_eq_error_iff.mp ⟨error, refused⟩
    rw [Knowledge.add]
    split <;> first | rfl | exact absurd ‹_› (by simp_all [SessionState.knownEntityTypes])

theorem knowledge_applyEntities (ambient : Ambient) (drawn : Nat) (protos : List EntityProto)
    (state : SessionState) :
    (applyEntities ambient drawn protos state).knowledge =
      protos.foldl Knowledge.add state.knowledge := by
  induction protos generalizing drawn state with
  | nil => rfl
  | cons proto protos ih => rw [applyEntities, ih, knowledge_acceptEntity, List.foldl_cons]

omit [Runtime] in
/-- The knowledge of a session is read off its collections. -/
theorem knowledge_congr {left right : SessionState}
    (same : left.collections = right.collections) : left.knowledge = right.knowledge := by
  simp only [SessionState.collections, SessionState.Collections.mk.injEq] at same
  rcases same with ⟨actors, requirements, constraints, assumptions, questions⟩
  rw [SessionState.knowledge, actors, requirements, constraints, assumptions, questions]
  rfl

theorem turnCount_turnResult (ambient : Ambient) (request : TurnResultRequest)
    (state : SessionState) :
    (turnResult ambient request state).turnCount =
      state.turnCount + (max request.turnCountDelta 0).toUInt32 := by
  have entities : (applyEntities ambient 0 request.entities state).turnCount =
      state.turnCount := by
    apply applyEntities_keeps
    intro id now entity before after applied
    rcases SessionState.applyEntity_cases applied with
      ⟨_, rfl⟩ | ⟨_, rfl⟩ | ⟨_, rfl⟩ | ⟨_, _, rfl⟩ | ⟨_, _, rfl⟩ | ⟨_, rfl⟩ <;> rfl
  have updates : (applyAcUpdates ambient request.entities.length request.acUpdates
      (applyEntities ambient 0 request.entities state)).turnCount =
        (applyEntities ambient 0 request.entities state).turnCount := by
    apply applyAcUpdates_keeps
    intro now update before
    rw [SessionState.applyAcUpdate]
    cases update.met <;> rfl
  rw [turnResult, updates, entities]

/-- A turn result does to the session what its content absorbs. -/
theorem content_turnResult (ambient : Ambient) (request : TurnResultRequest)
    (state : SessionState) :
    (turnResult ambient request state).content = state.content.absorb request := by
  have ledger := ledger_turnResult ambient request state
  apply SessionContent.ext
  · exact withoutTurnFields_turnResult ambient request state
  · change (turnResult ambient request state).knowledge = _
    rw [knowledge_congr (collections_turnResult ambient request state),
      knowledge_applyEntities]
    rfl
  · ext id
    change id ∈ (turnResult ambient request state).ledger.recorded ↔ Option.elim _ _ _
    rw [ledger, Ledger.mem_recorded_updates]
    cases Ledger.lastFlag id (ledgerChanges request.acUpdates) <;> rfl
  · ext id
    change id ∈ (turnResult ambient request state).ledger.waived ↔ _
    rw [ledger]
    exact Ledger.mem_waived_updates
  · exact totalLlmCostUsd_turnResult ambient request state
  · exact turnCount_turnResult ambient request state

/-! ## Two turn results in either order -/

/-- The sessions of two services have the same content. -/
def SameContent (left right : StateEngineService) : Prop :=
  ∀ id, (left.sessions id).map SessionState.content = (right.sessions id).map SessionState.content

/-- Two turn results, sent one after the other. -/
def afterBoth (service : StateEngineService) (first second : Ambient × TurnResultRequest) :
    StateEngineService :=
  serviceMachine.run service
    [.applyTurnResult first.1 first.2, .applyTurnResult second.1 second.2]

/-- The sessions after a turn result. -/
theorem sessions_applyTurnResult (service : StateEngineService) (ambient : Ambient)
    (request : TurnResultRequest) (id : Uuid) :
    (serviceMachine.next service (.applyTurnResult ambient request)).sessions id =
      if Runtime.parse request.sessionId = some id then
        (service.sessions id).map (turnResult ambient request)
      else service.sessions id := by
  rw [serviceMachine_refines, ServiceRequest.command, addressed]
  cases Runtime.parse request.sessionId with
  | none => rfl
  | some key =>
      simp only [Option.some.injEq]
      exact Store.perform_send_apply sessionMachine service.sessions key id
        (.applyTurnResult ambient request)

/-- Turn results for one session whose last updates agree lead to the same content in either
order when costs add up exactly, and turn results for different sessions to the same
sessions. -/
theorem turnResults_commute (service : StateEngineService) (left right : TurnResultRequest)
    (first second third fourth : Ambient) :
    (FloatRounding.ExactSums → Runtime.parse left.sessionId = Runtime.parse right.sessionId →
      LastUpdatesAgree left right →
        SameContent (afterBoth service (first, left) (second, right))
          (afterBoth service (third, right) (fourth, left))) ∧
      (Runtime.parse left.sessionId ≠ Runtime.parse right.sessionId →
        (afterBoth service (first, left) (second, right)).sessions =
          (afterBoth service (second, right) (first, left)).sessions) := by
  simp only [afterBoth, Machine.run_cons, Machine.run_nil]
  constructor
  · intro exact same agree id
    simp only [sessions_applyTurnResult, same]
    by_cases named : Runtime.parse right.sessionId = some id
    · simp only [named, if_true, Option.map_map]
      cases service.sessions id with
      | none => rfl
      | some state =>
          simp only [Option.map_some, Function.comp_apply, content_turnResult,
            SessionContent.absorb_right_comm exact agree]
    · simp only [named, if_false]
  · intro different
    funext id
    simp only [sessions_applyTurnResult]
    by_cases named : Runtime.parse left.sessionId = some id
    · have other : Runtime.parse right.sessionId ≠ some id := fun same =>
        different (named.trans same.symm)
      simp only [named, other, if_true, if_false]
    · simp only [named, if_false]

end TurnOrder

/-! ### Two concurrent turns -/

section Sample

attribute [local instance] referenceRuntime

/-- An actor, and the retraction of a criterion that the other turn leaves alone. -/
def sampleRetraction : TurnResultRequest where
  sessionId := "00000000-0000-0000-0000-0000000000a1"
  entities :=
    [{ entityType := "actor", value := "Meera, Finance", confidence := .finite 1,
       source := "conversation", sourceChunkIds := [] }]
  acUpdates :=
    [{ criterionId := "AC-S1-02", met := true, evidence := "stated" },
      { criterionId := "AC-S1-02", met := false, evidence := "withdrawn" }]
  costUsd := .finite (1 / 10)
  turnCountDelta := 1

/-- The same turn for another session. -/
def sampleElsewhere : TurnResultRequest :=
  { sampleRetraction with sessionId := "00000000-0000-0000-0000-0000000000a2" }

theorem commute_sampleTurns :
    SameContent
        (afterBoth (serviceMachine.run .new [sampleCreate]) (sampleAmbient, sampleConfirmation)
          (sampleAmbient, sampleRetraction))
        (afterBoth (serviceMachine.run .new [sampleCreate]) (sampleAmbient, sampleRetraction)
          (sampleAmbient, sampleConfirmation)) ∧
      (afterBoth (serviceMachine.run .new [sampleCreate]) (sampleAmbient, sampleConfirmation)
          (sampleAmbient, sampleElsewhere)).sessions =
        (afterBoth (serviceMachine.run .new [sampleCreate]) (sampleAmbient, sampleElsewhere)
          (sampleAmbient, sampleConfirmation)).sessions := by
  constructor
  · apply (turnResults_commute (serviceMachine.run .new [sampleCreate]) sampleConfirmation
      sampleRetraction sampleAmbient sampleAmbient sampleAmbient sampleAmbient).1
      FloatRounding.exactSums_exact rfl
    intro id one seen two shown
    have named := Ledger.mem_of_lastFlag seen
    have other := Ledger.mem_of_lastFlag shown
    simp [ledgerChanges, sampleConfirmation] at named
    simp [ledgerChanges, sampleRetraction, named.1] at other
  · exact (turnResults_commute (serviceMachine.run .new [sampleCreate]) sampleConfirmation
      sampleElsewhere sampleAmbient sampleAmbient sampleAmbient sampleAmbient).2 (by decide)

end Sample

end Chitragupt
