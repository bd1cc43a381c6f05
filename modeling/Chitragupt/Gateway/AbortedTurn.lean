import Chitragupt.Gateway.Readiness

/-!
# Aborted turns

The guidance is the last node, so the result of an aborted turn carries whatever the
nodes before it have extracted.  The gateway applies it like any other turn, and the
session stays as it was only when there is nothing new in it.
-/

namespace Chitragupt

open Python (PyError Json)

section Aborted

variable [Runtime] [Rendering] (servicer : AiOrchestrationServicer)
  (environment : Environment) (ambient : Ambient) (rpcError : PyError → String)

/-- The pipeline of a turn ends with an aborted result. -/
structure Aborts (state : SessionState) (request : TurnReq) : Prop where
  spoken : request.message ≠ ""
  available : servicer.protoAvailable = true
  aborted : ∃ result,
    (servicer.runTurn environment state.toJson request.message).ending = .aborted result

/-- A turn leaves the collections and the criteria of the session as they were. -/
def LeavesUntouched (sessionId : String) (id : Uuid) (request : TurnReq)
    (service : StateEngineService) (state : SessionState) : Prop :=
  ∃ after, (Handler.processTurn servicer environment ambient rpcError sessionId
      (some request) service).1.sessions id = some after ∧
    after.collections = state.collections ∧ after.acMet = state.acMet ∧
      after.acWaived = state.acWaived

/-- There is nothing new in the turn: its entities leave the collections as they are, and
the criteria of its updates are recorded already. -/
structure NothingNew (state : SessionState) (prepared : PipelineState) : Prop where
  entities : ∀ entity ∈ prepared.extractedEntities, ∀ proto,
    entityToProto entity = .ok proto → state.collections.Idle proto.entityType proto.value
  acUpdates : ∀ update ∈ prepared.acUpdates,
    update.criterionId ∈ state.acMet ∧ update.criterionId ∉ state.acWaived

/-- The updates of a prepared turn are recording ones. -/
theorem met_of_prepared {state : SessionState} {message : String} {prepared : PipelineState}
    (ready : Prepared servicer environment state message prepared) :
    ∀ update ∈ prepared.acUpdates, update.met = true := by
  have returned := ready.returned
  rw [prepare_opening] at returned
  cases route : PipelineExecutor.routeAfterIntent
      (classified servicer environment state message) with
  | revisit =>
      rw [route] at returned
      rcases Except.ok.inj returned with rfl
      obtain ⟨_, _, intended⟩ := IntentClassifier.call_eq servicer.config environment
        (opening servicer state message)
      intro update member
      have kept := RevisitHandler.acUpdates_call _ member
      rw [classified, intended] at kept
      cases kept
  | default =>
      rw [route] at returned
      obtain ⟨_, _, retrieved⟩ := RagRetrieval.call_eq servicer.config environment
        (EntityExtractor.call servicer.config environment
          (classified servicer environment state message))
      have met := EntityExtractor.met_call servicer.config environment
        (classified servicer environment state message)
      have contributed : (contributed servicer environment state message).acUpdates =
          (EntityExtractor.call servicer.config environment
            (classified servicer environment state message)).acUpdates := by
        rw [Chitragupt.contributed, retrieved]
      rw [← contributed] at met
      rw [GapAnalyzer.acUpdates_call servicer.config environment returned]
      exact met

/-- A turn whose guidance fails in time is aborted. -/
theorem aborts_of_raises {state : SessionState} {request : TurnReq}
    (spoken : request.message ≠ "") (available : servicer.protoAvailable = true)
    {maxsize : Int} (bounded : servicer.tokenQueueMaxsize = .ok maxsize)
    (prompt : environment.slowNodes = false) {prepared : PipelineState}
    (ready : Prepared servicer environment state request.message prepared) {error : PyError}
    (raised : (guidance servicer environment prepared).outcome = .raises error) :
    Aborts servicer environment state request := by
  refine ⟨spoken, available, ?_⟩
  rw [runTurn_eq servicer environment state request.message bounded,
    runGraph_opening servicer environment state request.message ready prompt, resultOf, raised]
  exact ⟨_, rfl⟩

section Turn

variable {sessionId : String} {id : Uuid} {state : SessionState}
  {service : StateEngineService} {request : TurnReq}

omit [Rendering] in
/-- A completed turn leaves the session untouched when there is nothing new in it. -/
theorem afterTurn_untouched_iff (sessionId : String) {prepared : PipelineState} {turn : TurnComplete}
    (mapped : prepared.extractedEntities.mapM entityToProto = .ok turn.entities)
    (updates : turn.acUpdates = prepared.acUpdates.map acUpdateToProto)
    (met : ∀ update ∈ prepared.acUpdates, update.met = true) :
    ((Handler.afterTurn ambient sessionId turn state).collections = state.collections ∧
        (Handler.afterTurn ambient sessionId turn state).ledger = state.ledger) ↔
      NothingNew state prepared := by
  have changes : StateEngineService.ledgerChanges turn.acUpdates =
      prepared.acUpdates.map fun update => (update.criterionId, update.met) := by
    rw [updates, StateEngineService.ledgerChanges, List.map_map]
    rfl
  have recording : ∀ change ∈ StateEngineService.ledgerChanges turn.acUpdates,
      change.2 = true := by
    rw [changes]
    intro change member
    rcases List.mem_map.mp member with ⟨update, listed, rfl⟩
    exact met update listed
  rw [Handler.afterTurn, StateEngineService.collections_turnResult,
    StateEngineService.ledger_turnResult,
    StateEngineService.collections_applyEntities_eq_iff]
  rw [Handler.applyRequest]
  dsimp only
  rw [Ledger.updates_eq_iff_of_recording recording, changes, List.forall_mem_map,
    Python.forall_mem_of_mapM mapped]
  exact ⟨fun parts => ⟨parts.1, parts.2⟩, fun new => ⟨new.entities, new.acUpdates⟩⟩

/-- A turn whose completion is not delivered leaves every session as it was. -/
theorem processTurn_of_not_completes (parsed : Runtime.parse sessionId = some id)
    (stored : service.sessions id = some state) (spoken : request.message ≠ "")
    (available : servicer.protoAvailable = true)
    (incomplete : ∀ turn,
      ¬Completes (servicer.runTurn environment state.toJson request.message) turn) :
    (Handler.processTurn servicer environment ambient rpcError sessionId (some request)
      service).1 = service := by
  obtain ⟨texts, completed, error, stream, last, exactly⟩ :=
    streamOf_eq (servicer.runTurn environment state.toJson request.message)
  rw [Handler.processTurn]
  simp only [spoken, if_false, StateEngineService.getSessionState,
    StateEngineService.parseUuid, parsed, stored,
    runPipeline_stateToProto servicer environment state request.message available, stream]
  cases error with
  | some error => rfl
  | none =>
      rcases Option.isSome_iff_exists.mp (last.mpr rfl) with ⟨turn, same⟩
      exact absurd ((exactly turn).mp same) (incomplete turn)

/-- Where the completion of a turn is delivered, the gateway applies it. -/
theorem leavesUntouched_of_delivered (parsed : Runtime.parse sessionId = some id)
    (stored : service.sessions id = some state)
    (aborts : Aborts servicer environment state request) {prepared : PipelineState}
    (ready : Prepared servicer environment state request.message prepared)
    (delivered : Delivered servicer environment prepared) :
    LeavesUntouched servicer environment ambient rpcError sessionId id request service state ↔
      NothingNew state prepared := by
  obtain ⟨turn, completes⟩ :=
    exists_completes servicer environment state request.message ready delivered
  obtain ⟨_, reports⟩ :=
    reports_of_completes servicer environment state request.message ready completes
  obtain ⟨texts, processed⟩ := Handler.processTurn_of_completes servicer environment ambient
    rpcError parsed stored aborts.spoken aborts.available completes
  rw [LeavesUntouched, processed, ← afterTurn_untouched_iff ambient sessionId
    reports.entities reports.acUpdates (met_of_prepared servicer environment ready)]
  simp [Machines.Store.insert_self, SessionState.ledger]

/-- An aborted turn leaves the session untouched exactly when its completion is not
delivered or has nothing new in it. -/
theorem leavesUntouched_iff (parsed : Runtime.parse sessionId = some id)
    (stored : service.sessions id = some state)
    (aborts : Aborts servicer environment state request) :
    LeavesUntouched servicer environment ambient rpcError sessionId id request service state ↔
      ∀ prepared, PipelineExecutor.prepare servicer.config environment
          (opening servicer state request.message) = .ok prepared →
        Delivered servicer environment prepared → NothingNew state prepared := by
  rcases exists_prepared servicer environment state request.message with ⟨prepared, ready⟩
  have determined : (∀ prepared, PipelineExecutor.prepare servicer.config environment
      (opening servicer state request.message) = .ok prepared →
        Delivered servicer environment prepared → NothingNew state prepared) ↔
      (Delivered servicer environment prepared → NothingNew state prepared) := by
    rw [ready.returned]
    simp
  rw [determined]
  by_cases delivered : Delivered servicer environment prepared
  · rw [imp_iff_right delivered]
    exact leavesUntouched_of_delivered servicer environment ambient rpcError parsed stored
      aborts ready delivered
  · have same : (Handler.processTurn servicer environment ambient rpcError sessionId
        (some request) service).1 = service := by
      apply processTurn_of_not_completes servicer environment ambient rpcError parsed stored
        aborts.spoken aborts.available
      intro turn completes
      exact delivered (reports_of_completes servicer environment state request.message ready
        completes).1
    rw [LeavesUntouched, same]
    constructor
    · intro _ other
      exact absurd other delivered
    · intro _
      exact ⟨state, stored, rfl, rfl, rfl⟩

end Turn

end Aborted

/-! ### A failure behind a captured actor -/

section Sample

attribute [local instance] referenceRuntime referenceRendering

/-- One actor is extracted, and the stream of the guidance fails before its first token. -/
def sampleOutage : Environment :=
  { sampleEnvironment with
    reply := fun request => .returns (some (.ofString
      (if request.maxTokens = 32 then "\x7b\"intent\": \"ProblemCapture\"\x7d"
        else if request.maxTokens = 512 then
          "\x7b\"criterion_id\": \"x\", \"description\": \"y\", \"is_terminal\": true\x7d"
        else
          "[\x7b\"entity_type\": \"actor\", \"value\": \"Accountant\"\x7d]")))
    stream := fun _ =>
      { tokens := [], ending := .raised ⟨.other "APITimeoutError", "Request timed out."⟩ } }

/-- The turn extracts one actor, and everything in it fits into the message. -/
theorem sampleOutage_prepared {prepared : PipelineState}
    (ready : Prepared sampleServicer sampleOutage sampleFresh sampleMessage prepared) :
    Fits prepared ∧ ∃ protos, prepared.extractedEntities.mapM entityToProto = .ok protos ∧
      protos.map (·.entityType) = ["actor"] := by
  have facts : (PipelineExecutor.prepare sampleServicer.config sampleOutage
      (opening sampleServicer sampleFresh sampleMessage)).toOption.map (fun prepared =>
        ((prepared.extractedEntities.mapM entityToProto).toOption.map fun protos =>
            protos.map (·.entityType),
          prepared.gapAnalysis.map fun gap =>
            ((protoString gap.criterionId).toOption,
              (protoString gap.suggestedQuestion).toOption))) =
        some (some ["actor"], some (some "x", some "")) := by
    decide +kernel
  rw [ready.returned] at facts
  simp only [Except.toOption, Option.map_some, Option.some.injEq, Prod.mk.injEq] at facts
  rcases facts with ⟨entities, gap⟩
  cases mapped : prepared.extractedEntities.mapM entityToProto with
  | error error => simp [mapped] at entities
  | ok protos =>
      rw [mapped] at entities
      exact ⟨fits_of_written ⟨protos, mapped⟩ gap, protos, rfl, Option.some.inj entities⟩

theorem sampleOutage_guidance (prepared : PipelineState) :
    (∃ error, (guidance sampleServicer sampleOutage prepared).outcome = .raises error) ∧
      (guidance sampleServicer sampleOutage prepared).tokens = [] := by
  rw [guidance, GuidanceGenerator.generate]
  cases GuidanceGenerator.buildRequest sampleServicer.config sampleOutage prepared with
  | error error => exact ⟨⟨error, rfl⟩, rfl⟩
  | ok request => exact ⟨⟨_, rfl⟩, rfl⟩

theorem sampleOutage_aborts : Aborts sampleServicer sampleOutage sampleFresh sampleTurn := by
  rcases exists_prepared sampleServicer sampleOutage sampleFresh sampleMessage with
    ⟨prepared, ready⟩
  rcases sampleOutage_guidance prepared with ⟨⟨error, raised⟩, _⟩
  exact aborts_of_raises sampleServicer sampleOutage (by decide) rfl rfl rfl ready raised

theorem leavesUntouched_iff_sampleOutage :
    LeavesUntouched sampleServicer sampleOutage sampleAmbient sampleRpcError sampleId 0xA1
        sampleTurn sampleService sampleFresh ↔
      ∀ prepared, PipelineExecutor.prepare sampleServicer.config sampleOutage
          (opening sampleServicer sampleFresh sampleMessage) = .ok prepared →
        Delivered sampleServicer sampleOutage prepared → NothingNew sampleFresh prepared :=
  leavesUntouched_iff sampleServicer sampleOutage sampleAmbient sampleRpcError
    (by decide +kernel) sampleService_stored sampleOutage_aborts

/-- The actor of the aborted turn is written into the session. -/
theorem not_leavesUntouched_of_sampleOutage :
    ¬∀ servicer environment ambient rpcError sessionId id request service state,
      Runtime.parse sessionId = some id → service.sessions id = some state →
        Aborts servicer environment state request →
          LeavesUntouched servicer environment ambient rpcError sessionId id request service
            state := by
  intro all
  have parsed : Runtime.parse sampleId = some 0xA1 := by decide +kernel
  have untouched := all sampleServicer sampleOutage sampleAmbient sampleRpcError sampleId 0xA1
    sampleTurn sampleService sampleFresh parsed sampleService_stored sampleOutage_aborts
  rcases exists_prepared sampleServicer sampleOutage sampleFresh sampleMessage with
    ⟨prepared, ready⟩
  rcases sampleOutage_prepared ready with ⟨fits, protos, mapped, types⟩
  rcases sampleOutage_guidance prepared with ⟨⟨error, raised⟩, silent⟩
  have delivered : Delivered sampleServicer sampleOutage prepared :=
    ⟨⟨256, rfl⟩, rfl, by rw [raised]; exact nofun, by rw [silent]; exact nofun, fits⟩
  have new := (leavesUntouched_of_delivered sampleServicer sampleOutage sampleAmbient
    sampleRpcError parsed sampleService_stored sampleOutage_aborts ready delivered).mp untouched
  -- An actor is always added to the session.
  have idle := (Python.forall_mem_of_mapM mapped fun proto =>
    sampleFresh.collections.Idle proto.entityType proto.value).mpr new.entities
  obtain ⟨proto, rest, rfl⟩ : ∃ proto rest, protos = proto :: rest := by
    cases protos with
    | nil => cases types
    | cons proto rest => exact ⟨proto, rest, rfl⟩
  have actor : proto.entityType = "actor" := (List.cons.inj types).1
  have first := idle proto List.mem_cons_self
  rw [actor] at first
  simp [SessionState.Collections.Idle, SessionState.knownEntityTypes] at first

end Sample

end Chitragupt
