import Chitragupt.Pipeline.EntityExtractor
import Chitragupt.Pipeline.SessionDocument
import Chitragupt.StateMachine.Service

/-!
# Optimistic updates against the field checks

The extractor counts the items of the session document and of the turn; the field
checks count what the state engine has made of the same entities.  Two of the three
derived updates are implied by the field checks.  The third counts requirements of
every type where the check counts the functional ones.
-/

namespace Chitragupt

open Python (PyError Json)

/-! ## What entities add to a session -/

namespace StateEngineService

variable [Runtime] (ambient : Ambient)

/-- A view of the session that each entity extends by items of its own is extended by
the items of all entities, in order. -/
theorem view_applyEntities {α : Type} {view : SessionState → List α}
    {gain : EntityProto → List α}
    (step : ∀ drawn proto state,
      view (acceptEntity ambient drawn proto state) = view state ++ gain proto)
    (drawn : Nat) (protos : List EntityProto) (state : SessionState) :
    view (applyEntities ambient drawn protos state) = view state ++ protos.flatMap gain := by
  induction protos generalizing drawn state with
  | nil => simp [applyEntities]
  | cons proto protos ih =>
      rw [applyEntities, ih, step, List.flatMap_cons, List.append_assoc]

/-- The entities of a type. -/
def ofType (entityType : String) (protos : List EntityProto) : List EntityProto :=
  protos.filter fun proto => proto.entityType = entityType

/-- A view that grows by one item for each entity of one type. -/
theorem map_view_applyEntities {α : Type} (view : SessionState → List α)
    {entityType : String} {item : EntityProto → α}
    (step : ∀ drawn proto state,
      view (acceptEntity ambient drawn proto state) =
        view state ++ if proto.entityType = entityType then [item proto] else [])
    (drawn : Nat) (protos : List EntityProto) (state : SessionState) :
    view (applyEntities ambient drawn protos state) =
      view state ++ (ofType entityType protos).map item := by
  rw [view_applyEntities ambient step, ofType, List.append_cancel_left_eq]
  induction protos with
  | nil => rfl
  | cons proto protos ih =>
      by_cases same : proto.entityType = entityType <;> simp [same, ih]

/-- Whether an actor entity describes a decision-maker. -/
def describesDecisionMaker (proto : EntityProto) : Bool :=
  (Actor.fromEntityValue 0 proto.value).isDecisionMaker

/-- The type given to a requirement entity. -/
def classify (proto : EntityProto) : RequirementType :=
  (DraftRequirement.fromEntity 0 (protoToEntity proto)).requirementType

theorem decisionMakers_applyEntities (drawn : Nat) (protos : List EntityProto)
    (state : SessionState) :
    (applyEntities ambient drawn protos state).actors.map (·.isDecisionMaker) =
      state.actors.map (·.isDecisionMaker) ++
        (ofType "actor" protos).map describesDecisionMaker := by
  apply map_view_applyEntities ambient fun state => state.actors.map (·.isDecisionMaker)
  intro drawn proto state
  rw [actors_acceptEntity, List.map_append]
  split <;> rfl

theorem requirementTypes_applyEntities (drawn : Nat) (protos : List EntityProto)
    (state : SessionState) :
    (applyEntities ambient drawn protos state).requirements.map (·.requirementType) =
      state.requirements.map (·.requirementType) ++
        (ofType "requirement" protos).map classify := by
  apply map_view_applyEntities ambient fun state =>
    state.requirements.map (·.requirementType)
  intro drawn proto state
  rw [requirements_acceptEntity, List.map_append]
  split <;> rfl

end StateEngineService

/-! ## What the extractor counts -/

namespace EntityExtractor

/-- An extracted entity as the pipeline holds it. -/
def entityOf (phase : SessionPhase) (proto : EntityProto) : Entity where
  entityType := .ofString proto.entityType
  value := .ofString proto.value
  confidence := proto.confidence
  source := .ofString proto.source
  phase := phase.toJson
  sourceChunkIds := proto.sourceChunkIds.map .ofString

open StateEngineService (ofType describesDecisionMaker classify)

theorem isStr_ofString {left right : String} :
    (Json.ofString left).isStr (.ofString right) = decide (left = right) := by
  rw [Bool.eq_iff_iff, Json.ofString, Json.isStr_str, Text.ofString_inj, decide_eq_true_iff]

theorem filter_entityOf (phase : SessionPhase) (entityType : String)
    (protos : List EntityProto) :
    ((protos.map (entityOf phase)).filter fun entity =>
        entity.entityType.isStr (.ofString entityType)) =
      (ofType entityType protos).map (entityOf phase) := by
  rw [List.filter_map, ofType]
  congr 1
  refine List.filter_congr fun proto _ => ?_
  simp only [Function.comp_apply, entityOf, isStr_ofString]

theorem countType_entityOf (phase : SessionPhase) (entityType : String)
    (protos : List EntityProto) :
    countType entityType (protos.map (entityOf phase)) = (ofType entityType protos).length := by
  rw [countType, filter_entityOf, List.length_map]

/-- The extractor's phrases are among those of the state engine. -/
theorem describesDecisionMaker_of_mentions {proto : EntityProto}
    (mentioned : mentions (Text.lower (.ofString proto.value)) decisionMakerPhrases = true) :
    describesDecisionMaker proto = true := by
  have phrases : ∀ phrase ∈ decisionMakerPhrases, phrase ∈
      ["final approver", "decision maker", "decision_maker", "sign-off", "sign off"] := by
    decide
  rcases List.any_eq_true.mp mentioned with ⟨phrase, member, found⟩
  exact List.any_eq_true.mpr ⟨phrase, phrases phrase member, found⟩

theorem anyDecisionMaker_entityOf (phase : SessionPhase) (protos : List EntityProto) :
    anyDecisionMaker (protos.map (entityOf phase)) =
      .ok (protos.any fun proto =>
        mentions (Text.lower (.ofString proto.value)) decisionMakerPhrases) := by
  induction protos with
  | nil => rfl
  | cons proto protos ih =>
      rw [List.map_cons, anyDecisionMaker, ih, List.any_cons]
      have lower : (entityOf phase proto).value.lower =
          .ok (Text.lower (.ofString proto.value)) := rfl
      rw [lower]
      cases found : mentions (Text.lower (.ofString proto.value)) decisionMakerPhrases with
      | true => simp [found, bind, Except.bind, pure, Except.pure]
      | false => simp [found, bind, Except.bind]

/-- The derived updates in terms of the session. -/
def derived (state : SessionState) (phase : SessionPhase) (protos : List EntityProto) :
    List AcUpdate :=
  let actorCount := state.actors.length + (ofType "actor" protos).length
  let reqCount := state.requirements.length + (ofType "requirement" protos).length
  let decisionMaker := (ofType "actor" protos).any fun proto =>
    mentions (Text.lower (.ofString proto.value)) decisionMakerPhrases
  if protos = [] then []
  else
    match phase with
    | .stakeholderDiscovery =>
        (if 2 ≤ actorCount then
          [⟨"AC-S2-01", true, s!"≥2 actors present ({actorCount} total)"⟩] else []) ++
        (if decisionMaker then
          [⟨"AC-S2-02", true, "Decision-maker identified this turn"⟩] else [])
    | .requirementElicitation =>
        if 5 ≤ reqCount then
          [⟨"AC-S3-01", true, s!"≥5 requirements present ({reqCount} total)"⟩]
        else []
    | _ => []

/-- The counts that the updates stand for. -/
theorem mem_derived {state : SessionState} {phase : SessionPhase}
    {protos : List EntityProto} {update : AcUpdate} (member : update ∈ derived state phase protos) :
    ((∃ evidence, update = ⟨"AC-S2-01", true, evidence⟩) ∧
      2 ≤ state.actors.length + (ofType "actor" protos).length) ∨
    ((∃ evidence, update = ⟨"AC-S2-02", true, evidence⟩) ∧
      ((ofType "actor" protos).any fun proto =>
        mentions (Text.lower (.ofString proto.value)) decisionMakerPhrases) = true) ∨
    ((∃ evidence, update = ⟨"AC-S3-01", true, evidence⟩) ∧
      phase = .requirementElicitation ∧ protos ≠ [] ∧
      5 ≤ state.requirements.length + (ofType "requirement" protos).length) := by
  by_cases none : protos = []
  · simp [derived, none] at member
  cases phase with
  | stakeholderDiscovery =>
      simp only [derived, if_neg none] at member
      rcases List.mem_append.mp member with actors | decisionMaker
      · split at actors
        next enough => exact .inl ⟨⟨_, List.mem_singleton.mp actors⟩, enough⟩
        next => cases actors
      · split at decisionMaker
        next found => exact .inr (.inl ⟨⟨_, List.mem_singleton.mp decisionMaker⟩, found⟩)
        next => cases decisionMaker
  | requirementElicitation =>
      simp only [derived, if_neg none] at member
      split at member
      next enough => exact .inr (.inr ⟨⟨_, List.mem_singleton.mp member⟩, rfl, none, enough⟩)
      next => cases member
  | problemIntake | constraintCapture | architectureAlignment | reviewAndSignOff
    | signedOff => simp [derived, none] at member

theorem isStr_toJson (phase other : SessionPhase) :
    phase.toJson.isStr (.ofString other.variantName) = decide (phase = other) := by
  cases phase <;> cases other <;> rfl

/-- On the document of a session and well-formed entities the extractor never raises. -/
theorem deriveAcUpdates_toJson [Runtime] (state : SessionState) (phase : SessionPhase)
    (protos : List EntityProto) :
    deriveAcUpdates (protos.map (entityOf phase)) state.toJson phase.toJson =
      .ok (derived state phase protos) := by
  have actors : getField state.toJson "actors" (.list []) =
      listJson Actor.toJson state.actors :=
    state.getField_toJson _ (by simp [SessionState.jsonFields])
  have requirements : getField state.toJson "requirements" (.list []) =
      listJson DraftRequirement.toJson state.requirements :=
    state.getField_toJson _ (by simp [SessionState.jsonFields])
  have constraints : getField state.toJson "constraints" (.list []) =
      listJson DraftConstraint.toJson state.constraints :=
    state.getField_toJson _ (by simp [SessionState.jsonFields])
  have stakeholder := isStr_toJson phase .stakeholderDiscovery
  have requirement := isStr_toJson phase .requirementElicitation
  simp only [SessionPhase.variantName] at stakeholder requirement
  by_cases none : protos = []
  · subst none
    rfl
  · have some : (protos.map (entityOf phase)).isEmpty = false := by simpa using none
    simp only [deriveAcUpdates, derived, actors, requirements, constraints, len_listJson,
      countType_entityOf, filter_entityOf, anyDecisionMaker_entityOf, stakeholder,
      requirement, some, none, bind, Except.bind, pure, Except.pure]
    cases phase with
    | stakeholderDiscovery =>
        simp only [decide_true, if_true, if_false, Bool.false_eq_true]
    | requirementElicitation =>
        simp only [decide_true, if_true, if_false, Bool.false_eq_true, reduceCtorEq,
          decide_false]
        split <;> rfl
    | _ => rfl

end EntityExtractor

/-! ## The comparison -/

/-- The criterion of the update is met by its own field check. -/
def Justified (after : SessionState) (update : AcUpdate) : Prop :=
  ∃ check ∈ s2.checks after ++ s3.checks after,
    check.id = update.criterionId ∧ check.fieldMet = true

/-- The update for the actors is justified by their number. -/
theorem justified_actors {after : SessionState} {evidence : String}
    (enough : 2 ≤ after.actors.length) : Justified after ⟨"AC-S2-01", true, evidence⟩ := by
  refine ⟨_, List.mem_append_left _ List.mem_cons_self, rfl, ?_⟩
  exact decide_eq_true enough

/-- The update for the decision-maker is justified by one of the actors. -/
theorem justified_decisionMaker {after : SessionState} {evidence : String}
    (present : after.actors.any (·.isDecisionMaker) = true) :
    Justified after ⟨"AC-S2-02", true, evidence⟩ :=
  ⟨_, List.mem_append_left _ (List.mem_cons_of_mem _ List.mem_cons_self), rfl, present⟩

/-- The update for the requirements is justified by the functional ones only. -/
theorem justified_requirements {after : SessionState} {evidence : String} :
    Justified after ⟨"AC-S3-01", true, evidence⟩ ↔
      5 ≤ (after.requirements.filter (·.requirementType == .functional)).length := by
  constructor
  · rintro ⟨check, member, id, met⟩
    simp only [s2.checks, s3.checks, List.cons_append, List.nil_append, List.mem_cons,
      List.not_mem_nil, or_false] at member
    rcases member with
      rfl | rfl | rfl | rfl | rfl | rfl | rfl | rfl | rfl | rfl | rfl | rfl | rfl
    case inr.inr.inr.inr.inr.inr.inl => exact of_decide_eq_true met
    all_goals simp at id
  · intro enough
    refine ⟨_, List.mem_append_right _ List.mem_cons_self, rfl, ?_⟩
    exact decide_eq_true enough

section Comparison

variable [Runtime]

open StateEngineService (applyEntities ofType describesDecisionMaker classify)
open EntityExtractor (entityOf deriveAcUpdates decisionMakerPhrases)

theorem length_actors_applyEntities (ambient : Ambient) (drawn : Nat)
    (protos : List EntityProto) (state : SessionState) :
    (applyEntities ambient drawn protos state).actors.length =
      state.actors.length + (ofType "actor" protos).length := by
  have views := congrArg List.length
    (StateEngineService.decisionMakers_applyEntities ambient drawn protos state)
  simpa using views

theorem functionalCount_applyEntities (ambient : Ambient) (drawn : Nat)
    (protos : List EntityProto) (state : SessionState) :
    ((applyEntities ambient drawn protos state).requirements.filter
        (·.requirementType == .functional)).length =
      (state.requirements.map (·.requirementType)).count .functional +
        ((ofType "requirement" protos).map classify).count .functional := by
  rw [← List.count_append,
    ← StateEngineService.requirementTypes_applyEntities ambient drawn protos state,
    List.count, List.countP_map, List.countP_eq_length_filter]
  rfl

/-- An actor whose value the extractor marks is a decision-maker of the session. -/
theorem any_isDecisionMaker_applyEntities (ambient : Ambient) (drawn : Nat)
    {protos : List EntityProto}
    (found : ((ofType "actor" protos).any fun proto =>
      mentions (Text.lower (.ofString proto.value)) decisionMakerPhrases) = true)
    (state : SessionState) :
    (applyEntities ambient drawn protos state).actors.any (·.isDecisionMaker) = true := by
  rcases List.any_eq_true.mp found with ⟨proto, actor, mentioned⟩
  have described := EntityExtractor.describesDecisionMaker_of_mentions mentioned
  have listed : true ∈ (applyEntities ambient drawn protos state).actors.map
      (·.isDecisionMaker) := by
    rw [StateEngineService.decisionMakers_applyEntities]
    exact List.mem_append_right _ (List.mem_map.mpr ⟨proto, actor, described⟩)
  rcases List.mem_map.mp listed with ⟨maker, present, decides⟩
  exact List.any_eq_true.mpr ⟨maker, present, decides⟩

/-- Every derived update is justified once the same entities are applied. -/
def UpdatesJustified (ambient : Ambient) (state : SessionState) (phase : SessionPhase)
    (protos : List EntityProto) : Prop :=
  ∃ updates,
    deriveAcUpdates (protos.map (entityOf phase)) state.toJson phase.toJson = .ok updates ∧
      ∀ update ∈ updates, update.met = true →
        Justified (applyEntities ambient 0 protos state) update

/-- When the extractor counts five requirements, five of them are functional. -/
def CountsFunctional (state : SessionState) (phase : SessionPhase)
    (protos : List EntityProto) : Prop :=
  phase = .requirementElicitation → protos ≠ [] →
    5 ≤ state.requirements.length + (ofType "requirement" protos).length →
      5 ≤ (state.requirements.map (·.requirementType)).count .functional +
        ((ofType "requirement" protos).map classify).count .functional

/-- The derived updates are justified exactly when the requirements that the extractor
counts are functional. -/
theorem updatesJustified_iff (ambient : Ambient) (state : SessionState)
    (phase : SessionPhase) (protos : List EntityProto) :
    UpdatesJustified ambient state phase protos ↔ CountsFunctional state phase protos := by
  rw [UpdatesJustified]
  simp only [EntityExtractor.deriveAcUpdates_toJson, Except.ok.injEq, exists_eq_left']
  constructor
  · intro justified isElicitation some enough
    subst isElicitation
    have derived : ∃ evidence,
        EntityExtractor.derived state .requirementElicitation protos =
          [⟨"AC-S3-01", true, evidence⟩] :=
      ⟨_, by rw [EntityExtractor.derived, if_neg some]; exact if_pos enough⟩
    rcases derived with ⟨evidence, derived⟩
    have met := justified ⟨"AC-S3-01", true, evidence⟩
      (derived ▸ List.mem_singleton_self _) rfl
    rw [← functionalCount_applyEntities ambient 0 protos state]
    exact justified_requirements.mp met
  · intro counts update member _
    rcases EntityExtractor.mem_derived member with
      ⟨⟨evidence, rfl⟩, enough⟩ | ⟨⟨evidence, rfl⟩, found⟩ |
        ⟨⟨evidence, rfl⟩, isElicitation, some, enough⟩
    · apply justified_actors
      rwa [length_actors_applyEntities]
    · apply justified_decisionMaker
      exact any_isDecisionMaker_applyEntities ambient 0 found state
    · rw [justified_requirements, functionalCount_applyEntities]
      exact counts isElicitation some enough

end Comparison

/-! ### Five non-functional requirements -/

section Sample

attribute [local instance] referenceRuntime

/-- Five requirements about latency. -/
def sampleRequirements : List EntityProto :=
  ["low search latency", "low login latency", "low upload latency", "low export latency",
    "low billing latency"].map fun value =>
    { entityType := "requirement"
      value
      confidence := .finite 1
      source := "conversation"
      sourceChunkIds := [] }

def sampleElicitation : SessionState :=
  { SessionState.new 0xA1 1700000000000000000 1 2 with
    currentPhase := .requirementElicitation }

/-- None of the five is functional, but the update calls the criterion met. -/
theorem not_updatesJustified_of_sampleRequirements :
    ¬∀ ambient state phase protos, UpdatesJustified ambient state phase protos := by
  intro all
  obtain ⟨updates, emitted, justified⟩ :=
    all { now := fun _ => 0, newV4 := fun drawn => BitVec.ofNat 128 drawn } sampleElicitation
      .requirementElicitation sampleRequirements
  rw [EntityExtractor.deriveAcUpdates_toJson, Except.ok.injEq] at emitted
  have derived : ∃ evidence, updates = [⟨"AC-S3-01", true, evidence⟩] := ⟨_, emitted.symm⟩
  rcases derived with ⟨evidence, rfl⟩
  have enough := justified_requirements.mp (justified _ (List.mem_singleton_self _) rfl)
  have types : (StateEngineService.ofType "requirement" sampleRequirements).map
      StateEngineService.classify = List.replicate 5 .nonFunctional := by
    rfl
  rw [functionalCount_applyEntities, types] at enough
  exact absurd enough (by decide)

end Sample

end Chitragupt
