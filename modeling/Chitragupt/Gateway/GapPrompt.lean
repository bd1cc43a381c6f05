import Chitragupt.Gateway.Readiness
import Chitragupt.Pipeline.ProviderCalls
import Chitragupt.Pipeline.StateJson

/-!
# What the gap analyzer is told

The prompt of the gap analyzer counts the entities of the turn in before the state engine
has seen them.  Read back from its text, it shows the session that the engine makes of the
turn in these counts, and the session before the turn in everything else.
-/

namespace Chitragupt

open Python (PyError Json)
open Python.JsonWriter (Blanks Escaping Layout NumberFormat Readable Style)

/-! ## Writing JSON in Python -/

namespace PythonJson

/-- Only printable ASCII is left as it is, and not all of that. -/
def escaping : Escaping where
  plain code := decide (32 ≤ code) && decide (code < 127) && code != 34 && code != 92
  short := Python.JsonWriter.letters
  plain_readable code plain := by
    simp only [Bool.and_eq_true, decide_eq_true_eq, bne_iff_ne, and_assoc] at plain
    exact ⟨plain.1, plain.2.2.1, plain.2.2.2⟩
  short_readable := Python.JsonWriter.letters_readable
  short_visible := by decide

def space : Blanks := ⟨[32], by decide⟩

/-- One line, with a space behind each comma and each colon. -/
def style (numbers : NumberFormat) : Style where
  toEscaping := escaping
  toLayout := { Layout.compact with between := fun _ => space, behindColon := space }
  toNumberFormat := numbers

/-- `json.dumps` writes what is not nested too deeply. -/
def Dumps [Rendering] (numbers : NumberFormat) (depth : Nat) : Prop :=
  ∀ value, Readable depth value →
    Rendering.dumps none value = .ok ((style numbers).write 0 value)

end PythonJson

/-! ## The prompt -/

/-- A criterion with its place in the ledger of a session. -/
def criterionJson (state : SessionState) (priority : Nat) (fallback : Fallback) : Json :=
  objectJson
    [ ("criterion_id", .ofString fallback.criterionId),
      ("description", .ofString fallback.description),
      ("met", .bool (decide (fallback.criterionId ∈ state.acMet))),
      ("waived", .bool (decide (fallback.criterionId ∈ state.acWaived))),
      ("priority", .int priority) ]

/-- The session before a turn, with the actors and requirements that it has after it. -/
def snapshotJson (before after : SessionState) : Json :=
  objectJson
    [ ("problem_statement", optionJson .ofString before.problemStatement),
      ("domain", optionJson .ofString before.businessDomain),
      ("actors", .int after.actors.length),
      ("requirements", .int after.requirements.length),
      ("constraints", .int before.constraints.length),
      ("assumptions", .int before.assumptions.length),
      ("open_questions", .int before.openQuestions.length),
      ("documents_indexed", .int before.documentsIndexed.length),
      ("regulatory_context", optionJson .ofString before.regulatoryContext),
      ("success_definition", optionJson .ofString before.successDefinition),
      ("architecture_approach", optionJson .ofString before.architectureApproach),
      ("deployment_environment", optionJson .ofString before.deploymentEnvironment) ]

/-- What the gap analyzer is told. -/
def gapPrompt (before after : SessionState) (chunks : List Json) : Json :=
  objectJson
    [ ("current_phase", before.currentPhase.toJson),
      ("ac_criteria", .list ((GapAnalyzer.fallbacks before.currentPhase).mapIdx
        fun index fallback => criterionJson before (index + 1) fallback)),
      ("session_snapshot", snapshotJson before after),
      ("retrieved_chunks", .list chunks) ]

/-- The lists of the session are no longer than a vector can be. -/
structure SessionState.Sized (state : SessionState) : Prop where
  actors : state.actors.length < 2 ^ 63
  requirements : state.requirements.length < 2 ^ 63
  constraints : state.constraints.length < 2 ^ 63
  assumptions : state.assumptions.length < 2 ^ 63
  openQuestions : state.openQuestions.length < 2 ^ 63
  documentsIndexed : state.documentsIndexed.length < 2 ^ 63

/-! ## Counting the entities of a turn -/

section Counts

section Mapping

variable [FloatRounding]

/-- The type of an entity goes into its message as it is. -/
theorem isStr_entityToProto {entity : Entity} {proto : EntityProto}
    (converted : entityToProto entity = .ok proto) {kind : String} (named : kind ≠ "") :
    entity.entityType.isStr (.ofString kind) = decide (proto.entityType = kind) := by
  simp only [entityToProto, Python.bind_eq_ok, Python.pure_eq_ok] at converted
  rcases converted with ⟨written, read, _, _, _, _, _, _, rfl⟩
  cases type : entity.entityType with
  | null =>
      rw [type, protoString, Except.ok.injEq] at read
      subst read
      exact (decide_eq_false (Ne.symm named)).symm
  | str text =>
      rw [type, protoString, protoText] at read
      split at read
      next found =>
        rcases Except.ok.inj read with rfl
        rw [Text.toString?_eq_some.mp found, Bool.eq_iff_iff, Json.isStr_str, Text.ofString_inj,
          decide_eq_true_iff]
      next => cases read
  | bool _ | int _ | float _ | list _ | dict _ =>
      rw [type] at read
      cases read

theorem countType_eq {entities : List Entity} {protos : List EntityProto}
    (mapped : entities.mapM entityToProto = .ok protos) {kind : String} (named : kind ≠ "") :
    countType kind entities = (protos.filter fun proto => proto.entityType = kind).length := by
  rw [Python.mapM_eq_ok] at mapped
  induction mapped with
  | nil => rfl
  | cons first _ ih =>
      rw [countType] at ih ⊢
      rw [List.filter_cons, List.filter_cons, isStr_entityToProto first named]
      split
      next => rw [List.length_cons, List.length_cons, ih]
      next => exact ih

end Mapping

variable [Runtime]

/-- A list that gets an item for each entity of a kind. -/
theorem length_applyEntities {α : Type} (view : SessionState → List α) {kind : String}
    (ambient : Ambient)
    (step : ∀ drawn proto state,
      (view (StateEngineService.acceptEntity ambient drawn proto state)).length =
        (view state).length + if proto.entityType = kind then 1 else 0)
    (drawn : Nat) (protos : List EntityProto) (state : SessionState) :
    (view (StateEngineService.applyEntities ambient drawn protos state)).length =
      (view state).length + (protos.filter fun proto => proto.entityType = kind).length := by
  induction protos generalizing drawn state with
  | nil => rfl
  | cons proto protos ih =>
      rw [StateEngineService.applyEntities, ih, step, List.filter_cons]
      by_cases same : proto.entityType = kind
      · simp [same]
        omega
      · simp [same]

variable (ambient : Ambient) (request : TurnResultRequest) (state : SessionState)

theorem length_actors_turnResult :
    (StateEngineService.turnResult ambient request state).actors.length =
      state.actors.length +
        (request.entities.filter fun proto => proto.entityType = "actor").length := by
  have actors : (StateEngineService.turnResult ambient request state).actors =
      (StateEngineService.applyEntities ambient 0 request.entities state).actors :=
    congrArg SessionState.Collections.actors
      (StateEngineService.collections_turnResult ambient request state)
  rw [actors]
  refine length_applyEntities SessionState.actors ambient (fun drawn proto state => ?_) 0
    request.entities state
  rw [StateEngineService.actors_acceptEntity, List.length_append]
  split <;> rfl

theorem length_requirements_turnResult :
    (StateEngineService.turnResult ambient request state).requirements.length =
      state.requirements.length +
        (request.entities.filter fun proto => proto.entityType = "requirement").length := by
  have requirements : (StateEngineService.turnResult ambient request state).requirements =
      (StateEngineService.applyEntities ambient 0 request.entities state).requirements :=
    congrArg SessionState.Collections.requirements
      (StateEngineService.collections_turnResult ambient request state)
  rw [requirements]
  refine length_applyEntities SessionState.requirements ambient (fun drawn proto state => ?_) 0
    request.entities state
  rw [StateEngineService.requirements_acceptEntity, List.length_append]
  split <;> rfl

end Counts

/-! ## The input of the model -/

namespace GapAnalyzer

variable [Runtime]

/-- The number of items of a list of the session. -/
theorem fieldLength_toJson {α : Type} {state : SessionState} {name : String} {json : α → Json}
    {values : List α} (field : (name, listJson json values) ∈ state.jsonFields) :
    fieldLength state.toJson name = .ok values.length := by
  rw [fieldLength, state.getField_toJson _ field]
  cases values with
  | nil => rfl
  | cons value values =>
      have kept : (listJson json (value :: values)).orElse (.list []) =
        listJson json (value :: values) := rfl
      rw [kept, len_listJson]

/-- The strings of a list of the session. -/
theorem toList_field {state : SessionState} {name : String} {values : List String}
    (field : (name, listJson .ofString values) ∈ state.jsonFields) :
    ((getField state.toJson name .null).orElse (.list [])).toList =
      .ok (values.map Json.ofString) := by
  rw [state.getField_toJson _ field]
  cases values <;> rfl

omit [Runtime] in
theorem any_isStr (values : List String) (text : String) :
    ((values.map Json.ofString).any (·.isStr (.ofString text))) = decide (text ∈ values) :=
  Except.ok.inj (containsStr_listJson values text)

omit [Runtime] in
theorem criterionInput_eq (state : SessionState) (priority : Nat) (fallback : Fallback) :
    criterionInput (state.acMet.map Json.ofString) (state.acWaived.map Json.ofString) priority
      fallback = criterionJson state priority fallback := by
  rw [criterionInput, any_isStr, any_isStr]
  rfl

/-- The input on the document of a session, with the session that the engine makes of the
entities. -/
theorem buildGapInput_toJson {entered : PipelineState} {before after : SessionState}
    (document : entered.sessionState = before.toJson)
    (phase : entered.llmCtx.currentPhase = before.currentPhase.toJson)
    (actors : after.actors.length =
      before.actors.length + countType "actor" entered.extractedEntities)
    (requirements : after.requirements.length =
      before.requirements.length + countType "requirement" entered.extractedEntities) :
    buildGapInput entered =
      .ok (gapPrompt before after (entered.retrievedChunks.map chunkInput)) := by
  have text : ∀ name (value : Option String),
      (name, optionJson .ofString value) ∈ before.jsonFields →
        getField before.toJson name .null = optionJson .ofString value :=
    fun name value listed => before.getField_toJson _ listed
  have problem := text "problem_statement" before.problemStatement (by simp [SessionState.jsonFields])
  have domain := text "business_domain" before.businessDomain (by simp [SessionState.jsonFields])
  have context := text "regulatory_context" before.regulatoryContext (by simp [SessionState.jsonFields])
  have success := text "success_definition" before.successDefinition (by simp [SessionState.jsonFields])
  have approach := text "architecture_approach" before.architectureApproach
    (by simp [SessionState.jsonFields])
  have environment := text "deployment_environment" before.deploymentEnvironment
    (by simp [SessionState.jsonFields])
  have actorCount := @fieldLength_toJson _ _ before "actors" Actor.toJson before.actors
    (by simp [SessionState.jsonFields])
  have requirementCount := @fieldLength_toJson _ _ before "requirements" DraftRequirement.toJson
    before.requirements (by simp [SessionState.jsonFields])
  have constraintCount := @fieldLength_toJson _ _ before "constraints" DraftConstraint.toJson
    before.constraints (by simp [SessionState.jsonFields])
  have assumptionCount := @fieldLength_toJson _ _ before "assumptions" Json.ofString
    before.assumptions (by simp [SessionState.jsonFields])
  have questionCount := @fieldLength_toJson _ _ before "open_questions" Json.ofString
    before.openQuestions (by simp [SessionState.jsonFields])
  have documentCount := @fieldLength_toJson _ _ before "documents_indexed" uuidJson
    before.documentsIndexed (by simp [SessionState.jsonFields])
  have met := @toList_field _ before "ac_met" before.acMet (by simp [SessionState.jsonFields])
  have waived := @toList_field _ before "ac_waived" before.acWaived
    (by simp [SessionState.jsonFields])
  simp only [buildGapInput, document, phase, problem, domain, context, success, approach,
    environment, actorCount, requirementCount, constraintCount, assumptionCount, questionCount,
    documentCount, met, waived, fallbacksOf_toJson, criterionInput_eq, bind, Except.bind, pure,
    Except.pure]
  simp only [gapPrompt, snapshotJson, actors, requirements]
  rfl

end GapAnalyzer

/-! ## The text of the prompt -/

section Text

variable {room : Nat}

theorem readable_length {count : Nat} (few : count < 2 ^ 63) : Readable room (.int count) := by
  have digits : 2 ^ 63 ≤ 10 ^ Python.JsonDecoder.maxStrDigits :=
    (show 2 ^ 63 ≤ 10 ^ 63 by decide).trans
      (Nat.pow_le_pow_right (by decide) (show 63 ≤ 4300 by decide))
  exact .int _ (few.trans_le digits)

theorem readable_criterionJson (state : SessionState) {priority : Nat}
    (few : priority < 2 ^ 63) (fallback : Fallback) :
    Readable (room + 1) (criterionJson state priority fallback) := by
  refine readable_objectJson (by simp) ?_
  simp only [List.forall_mem_cons]
  exact ⟨readable_ofString _, readable_ofString _, .bool _, .bool _, readable_length few, nofun⟩

theorem readable_snapshotJson {before after : SessionState} (sized : before.Sized)
    (fewActors : after.actors.length < 2 ^ 63)
    (fewRequirements : after.requirements.length < 2 ^ 63) :
    Readable (room + 1) (snapshotJson before after) := by
  refine readable_objectJson (by simp) ?_
  have text := @readable_optionJson room String Json.ofString readable_ofString
  simp only [List.forall_mem_cons]
  exact ⟨text _, text _, readable_length fewActors, readable_length fewRequirements,
    readable_length sized.constraints,
    readable_length sized.assumptions, readable_length sized.openQuestions,
    readable_length sized.documentsIndexed, text _, text _, text _, text _, nofun⟩

theorem length_fallbacks_le (phase : SessionPhase) :
    (GapAnalyzer.fallbacks phase).length ≤ 5 := by
  cases phase <;> decide

theorem readable_gapPrompt {before after : SessionState} (sized : before.Sized)
    (fewActors : after.actors.length < 2 ^ 63)
    (fewRequirements : after.requirements.length < 2 ^ 63) {chunks : List Json}
    (readable : ∀ chunk ∈ chunks, Readable (room + 1) chunk) :
    Readable (room + 3) (gapPrompt before after chunks) := by
  refine readable_objectJson (by simp) ?_
  simp only [List.forall_mem_cons]
  refine ⟨readable_ofString _, .list _ fun item member => ?_,
    (readable_snapshotJson sized fewActors fewRequirements).mono (Nat.le_succ _),
    .list _ readable, nofun⟩
  rcases List.mem_mapIdx.mp member with ⟨index, bound, rfl⟩
  have few := length_fallbacks_le before.currentPhase
  exact readable_criterionJson before (by omega) _

/-- What is read back of a prompt; only numbers of the chunks may change. -/
theorem reading_gapPrompt (style : Style) (before after : SessionState) (chunks : List Json) :
    style.reading (gapPrompt before after chunks) =
      gapPrompt before after (chunks.map style.reading) := by
  have text : ∀ value, style.reading (optionJson .ofString value) =
      optionJson .ofString value := by
    intro value
    cases value <;> rfl
  have snapshot : style.reading (snapshotJson before after) = snapshotJson before after := by
    simp only [snapshotJson, reading_objectJson, List.map_cons, List.map_nil, text]
    rfl
  have criteria : style.reading (.list ((GapAnalyzer.fallbacks before.currentPhase).mapIdx
      fun index fallback => criterionJson before (index + 1) fallback)) =
        .list ((GapAnalyzer.fallbacks before.currentPhase).mapIdx
          fun index fallback => criterionJson before (index + 1) fallback) := by
    rw [Style.reading, Style.readingItems_eq_map]
    refine congrArg Json.list ((List.map_congr_left fun item member => ?_).trans (List.map_id _))
    rcases List.mem_mapIdx.mp member with ⟨index, bound, rfl⟩
    rfl
  simp only [gapPrompt, reading_objectJson, List.map_cons, List.map_nil, snapshot, criteria]
  rw [Style.reading, Style.readingItems_eq_map]
  rfl

end Text

/-! ## The gap analyzer in a turn -/

section Turn

variable [Runtime] [Rendering] {servicer : AiOrchestrationServicer}
  {environment : Environment} {state : SessionState} {message : String}
  {entered : PipelineState}

/-- The gap analyzer is entered behind the retrieval of a contribution. -/
theorem analyzeGaps_visited_iff :
    (.analyzeGaps, entered) ∈ PipelineGraph.visited servicer.config environment
        (opening servicer state message) ↔
      PipelineExecutor.routeAfterIntent (classified servicer environment state message) =
          .default ∧
        entered = contributed servicer environment state message := by
  rw [PipelineGraph.visited, PipelineGraph.fork, ← classified]
  dsimp only
  cases PipelineExecutor.routeAfterIntent (classified servicer environment state message) with
  | revisit =>
      simp only [PipelineGraph.edges, PipelineGraph.visits, PipelineNode.call, List.mem_cons,
        Prod.mk.injEq, reduceCtorEq, false_and, false_or, iff_false]
      split <;> exact List.not_mem_nil
  | default =>
      simp only [PipelineGraph.edges, PipelineGraph.visits, PipelineNode.call, List.mem_cons,
        Prod.mk.injEq, reduceCtorEq, false_and, false_or, true_and]
      refine or_iff_left fun later => ?_
      split at later
      next =>
        simp only [List.mem_cons, Prod.mk.injEq, reduceCtorEq, false_and, false_or] at later
        split at later <;> cases later
      next => cases later

/-- What the gap analyzer finds: the document of the session, and the entities that a
completed turn reports. -/
theorem contributed_toJson {turn : TurnComplete}
    (route : PipelineExecutor.routeAfterIntent (classified servicer environment state message) =
      .default)
    (completes : Completes (servicer.runTurn environment state.toJson message) turn) :
    (contributed servicer environment state message).sessionState = state.toJson ∧
      (contributed servicer environment state message).llmCtx.currentPhase =
        state.currentPhase.toJson ∧
      (contributed servicer environment state message).extractedEntities.mapM entityToProto =
        .ok turn.entities := by
  obtain ⟨_, _, intended⟩ := IntentClassifier.call_eq servicer.config environment
    (opening servicer state message)
  rw [← classified] at intended
  obtain ⟨_, _, _, extracted⟩ := EntityExtractor.call_eq servicer.config environment
    (classified servicer environment state message)
  obtain ⟨_, _, retrieved⟩ := RagRetrieval.call_eq servicer.config environment
    (EntityExtractor.call servicer.config environment
      (classified servicer environment state message))
  rw [← contributed, extracted, intended] at retrieved
  refine ⟨by rw [retrieved]; rfl, by rw [retrieved]; exact phaseOf_toJson state, ?_⟩
  obtain ⟨prepared, ready⟩ := exists_prepared servicer environment state message
  have reports := (reports_of_completes servicer environment state message ready completes).2
  have returned := ready.returned
  rw [prepare_opening, route] at returned
  rcases GapAnalyzer.eq_of_call servicer.config environment returned with ⟨_, _, _, rfl⟩
  exact reports.entities

end Turn

/-! ### A turn that mentions an actor -/

section Sample

attribute [local instance] referenceRuntime

/-- Python's way to write JSON, with tenths for numbers. -/
@[reducible] def asciiRendering : Rendering where
  str _ := []
  dumps _ value := .ok ((PythonJson.style Python.JsonWriter.tenths).write 0 value)

attribute [local instance] asciiRendering

/-- A model that extracts the accountant. -/
def sampleMention : Environment :=
  { sampleEnvironment with
    reply := fun request => .returns (some (.ofString
      (if request.maxTokens = 32 then "\x7b\"intent\": \"ProblemCapture\"\x7d"
        else if request.maxTokens = 512 then
          "\x7b\"criterion_id\": \"x\", \"description\": \"y\", \"is_terminal\": true\x7d"
        else "[\x7b\"entity_type\": \"actor\", \"value\": \"Accountant\", \"confidence\": 1\x7d]"))) }

end Sample

end Chitragupt
