import Chitragupt.Gateway.Turn
import Chitragupt.Pipeline.TurnOutcome
import Chitragupt.StateMachine.Progress

/-!
# Advertised readiness

The completion event of a turn advertises readiness with the gap of the pipeline.  The
state engine decides about readiness with its own evaluators, after the turn has been
applied.  The two agree on the turns whose terminal gap is backed by the session.
-/

namespace Chitragupt

open Python (PyError Json)
open StateEngineService (applyEntities applyAcUpdates turnResult turnResultResponse)

namespace PipelineResult

theorem collect_eventsOf (texts : List String) (completed : Option TurnComplete) :
    collect (eventsOf texts completed) = { tokens := texts, complete := completed } := by
  have received : ∀ before, (texts.map PipelineEvent.token).foldl receive before =
      { before with tokens := before.tokens ++ texts } := by
    induction texts with
    | nil => simp
    | cons text rest ih => simp [ih, receive]
  rw [collect, eventsOf]
  rw [List.foldl_append, received]
  cases completed <;> rfl

end PipelineResult

namespace Handler

section Turn

variable [Runtime] [Rendering] (servicer : AiOrchestrationServicer)
  (environment : Environment) (ambient : Ambient) (rpcError : PyError → String)

/-- The request that applies a completed turn. -/
def applyRequest (sessionId : String) (turn : TurnComplete) : TurnResultRequest where
  sessionId
  entities := turn.entities
  acUpdates := turn.acUpdates
  costUsd := turn.costUsd
  turnCountDelta := 1

/-- The session with a completed turn applied. -/
def afterTurn (sessionId : String) (turn : TurnComplete) (state : SessionState) :
    SessionState :=
  turnResult ambient (applyRequest sessionId turn) state

/-- The event of a completion. -/
def completionEvent (complete : Option TurnComplete) (after : SessionState) : SseEvent :=
  .complete (marshal (completion complete (some (turnResultResponse after))))

variable {sessionId : String} {id : Uuid} {state : SessionState}
  {service : StateEngineService}

/-- A completed turn is applied to the session and reported. -/
theorem processTurn_of_completes (parsed : Runtime.parse sessionId = some id)
    (stored : service.sessions id = some state) {request : TurnReq}
    (spoken : request.message ≠ "") (available : servicer.protoAvailable = true)
    {turn : TurnComplete}
    (completes : Completes (servicer.runTurn environment state.toJson request.message) turn) :
    ∃ texts : List String,
      processTurn servicer environment ambient rpcError sessionId (some request) service =
      ({ sessions := service.sessions.insert id (afterTurn ambient sessionId turn state) },
        .stream (texts.map SseEvent.token ++
          [completionEvent (some turn) (afterTurn ambient sessionId turn state)])) := by
  obtain ⟨texts, completed, error, stream, last, exactly⟩ :=
    streamOf_eq (servicer.runTurn environment state.toJson request.message)
  have same := (exactly turn).mpr completes
  subst same
  have ended : error = none := last.mp rfl
  subst ended
  refine ⟨texts, ?_⟩
  rw [processTurn]
  simp only [spoken, if_false, StateEngineService.getSessionState,
    StateEngineService.parseUuid, parsed, stored, StateEngineService.applyTurnResult,
    runPipeline_stateToProto servicer environment state request.message available, stream,
    PipelineResult.collect_eventsOf]
  rfl

/-- The response has a completion event with this data, which advertises readiness. -/
def Advertises (response : TurnResponse) (data : Json) : Prop :=
  ∃ events, response = .stream events ∧ .complete (some data) ∈ events ∧
    getField data "transition_ready" .null = .bool true

omit [Runtime] [Rendering] in
/-- The fields of a completion that readiness depends on. -/
theorem marshal_completion {turn : TurnComplete} {response : TurnResultResponse}
    {data : Json} :
    marshal (completion (some turn) (some response)) = some data ↔
      (∃ cost, turn.costUsd = .finite cost) ∧
        data = objectJson (completion (some turn) (some response)) := by
  rw [marshal]
  cases cost : turn.costUsd with
  | finite cost => simp [completion, isMarshallable, Json.ofString, cost, eq_comm]
  | infinite negative => simp [completion, isMarshallable, cost]
  | nan => simp [completion, isMarshallable, cost]

omit [Runtime] [Rendering] in
theorem getField_completion (turn : TurnComplete) (response : TurnResultResponse) :
    getField (objectJson (completion (some turn) (some response))) "transition_ready" .null =
        .bool turn.transitionReady ∧
      getField (objectJson (completion (some turn) (some response))) "aborted" .null =
        .bool turn.aborted := by
  rw [getField_objectJson, getField_objectJson]
  exact ⟨rfl, rfl⟩

/-- Only a completed turn advertises readiness. -/
theorem completes_of_advertises (parsed : Runtime.parse sessionId = some id)
    (stored : service.sessions id = some state) {request : TurnReq} {data : Json}
    (advertised : Advertises (processTurn servicer environment ambient rpcError sessionId
      (some request) service).2 data) :
    request.message ≠ "" ∧ servicer.protoAvailable = true ∧
      ∃ turn,
        Completes (servicer.runTurn environment state.toJson request.message) turn := by
  by_cases silent : request.message = ""
  · rcases advertised with ⟨events, response, _⟩
    rw [processTurn, if_pos silent] at response
    cases response
  rcases advertised with ⟨events, response, member, ready⟩
  rw [processTurn] at response
  simp only [silent, if_false, StateEngineService.getSessionState,
    StateEngineService.parseUuid, parsed, stored,
    StateEngineService.applyTurnResult] at response
  cases available : servicer.protoAvailable with
  | false =>
      have empty : ∀ request, servicer.runPipeline environment request =
          { events := [], error := none } := by
        intro request
        rw [AiOrchestrationServicer.runPipeline]
        rw [available]
        rfl
      rw [empty] at response
      -- The completion of an empty stream has no field for readiness.
      rcases TurnResponse.stream.inj response with rfl
      rcases Option.some.inj (SseEvent.complete.inj (List.mem_singleton.mp member)) with rfl
      rw [getField_objectJson] at ready
      cases ready
  | true =>
      obtain ⟨texts, completed, error, stream, last, exactly⟩ :=
        streamOf_eq (servicer.runTurn environment state.toJson request.message)
      rw [runPipeline_stateToProto servicer environment state request.message available,
        stream] at response
      cases error with
      | some error =>
          rcases TurnResponse.stream.inj response with rfl
          simp at member
      | none =>
          rcases Option.isSome_iff_exists.mp (last.mpr rfl) with ⟨turn, same⟩
          exact ⟨silent, rfl, turn, (exactly turn).mp same⟩

/-- The data of the completion event of a completed turn. -/
def completionData (sessionId : String) (turn : TurnComplete) (state : SessionState) : Json :=
  objectJson (completion (some turn)
    (some (turnResultResponse (afterTurn ambient sessionId turn state))))

omit [Rendering] in
theorem aborted_completionData (turn : TurnComplete) :
    getField (completionData ambient sessionId turn state) "aborted" .null =
      .bool turn.aborted :=
  (getField_completion turn _).2

/-- A completed turn advertises readiness when it says so and its cost can be written. -/
theorem advertises_of_completes (parsed : Runtime.parse sessionId = some id)
    (stored : service.sessions id = some state) {request : TurnReq}
    (spoken : request.message ≠ "") (available : servicer.protoAvailable = true)
    {turn : TurnComplete}
    (completes : Completes (servicer.runTurn environment state.toJson request.message) turn)
    {data : Json} :
    Advertises (processTurn servicer environment ambient rpcError sessionId (some request)
        service).2 data ↔
      (∃ cost, turn.costUsd = .finite cost) ∧ turn.transitionReady = true ∧
        data = completionData ambient sessionId turn state := by
  obtain ⟨texts, processed⟩ := processTurn_of_completes servicer environment ambient rpcError
    parsed stored spoken available completes
  obtain ⟨flag, _⟩ := getField_completion turn
    (turnResultResponse (afterTurn ambient sessionId turn state))
  rw [processed]
  constructor
  · rintro ⟨events, response, member, ready⟩
    rcases TurnResponse.stream.inj response with rfl
    have written : marshal (completion (some turn)
        (some (turnResultResponse (afterTurn ambient sessionId turn state)))) = some data := by
      simpa [completionEvent, eq_comm] using member
    rcases marshal_completion.mp written with ⟨cost, rfl⟩
    rw [flag, Json.bool.injEq] at ready
    exact ⟨cost, ready, rfl⟩
  · rintro ⟨cost, ready, rfl⟩
    refine ⟨_, rfl, ?_, ?_⟩
    · rw [completionEvent, marshal_completion.mpr ⟨cost, rfl⟩]
      exact List.mem_append_right _ (List.mem_singleton_self _)
    · rw [completionData, flag, ready]

end Turn

end Handler

/-! ## Soundness -/

section Soundness

variable [Runtime] [Rendering] (servicer : AiOrchestrationServicer)
  (environment : Environment) (ambient : Ambient) (rpcError : PyError → String)

/-- When the response to a turn advertises readiness, the turn was not aborted, and the
evaluator of the state engine finds the session ready. -/
def ReadinessSound (sessionId : String) (id : Uuid) (request : TurnReq)
    (service : StateEngineService) : Prop :=
  let processed := Handler.processTurn servicer environment ambient rpcError sessionId
    (some request) service
  ∀ data, Handler.Advertises processed.2 data →
    getField data "aborted" .null = .bool false ∧
      ∃ after, processed.1.sessions id = some after ∧
        (after.currentPhase.evaluateAc after).transitionReady = true

/-- The session with the entities and updates of a turn applied. -/
def applied (state : SessionState) (entities : List EntityProto)
    (updates : List AcUpdateProto) : SessionState :=
  applyAcUpdates ambient entities.length updates (applyEntities ambient 0 entities state)

/-- The guidance does not fail, and with the entities and updates of the turn applied no
criterion of the phase is left over. -/
structure Backed (state : SessionState) (prepared : PipelineState) : Prop where
  guided : ∀ error, (guidance servicer environment prepared).outcome ≠ .raises error
  working : state.currentPhase ≠ .signedOff
  met : ∀ entities, prepared.extractedEntities.mapM entityToProto = .ok entities →
    let after := applied ambient state entities (prepared.acUpdates.map acUpdateToProto)
    ∀ check ∈ state.currentPhase.checks after, isOptional check.id = true ∨
      check.fieldMet = true ∨ check.id ∈ after.acMet ∨ check.id ∈ after.acWaived

/-- A terminal gap is backed by the session whenever its turn is completed and its cost
can be written. -/
def ReadinessEarned (state : SessionState) (message : String) : Prop :=
  message ≠ "" → servicer.protoAvailable = true →
    (∃ cost, FloatRounding.single (turnContext servicer state).budget.spentUsd =
      .finite cost) →
    ∀ prepared, PipelineExecutor.prepare servicer.config environment
        (opening servicer state message) = .ok prepared →
      Delivered servicer environment prepared →
        TerminalGap servicer environment state message →
          Backed servicer environment ambient state prepared

omit [Rendering] in
/-- The evaluator after a turn looks at the entities and the updates only. -/
theorem evaluateAc_afterTurn (sessionId : String) (turn : TurnComplete)
    (state : SessionState) :
    let session := Handler.afterTurn ambient sessionId turn state
    let after := applied ambient state turn.entities turn.acUpdates
    (session.currentPhase.evaluateAc session).transitionReady = true ↔
      state.currentPhase ≠ .signedOff ∧
        ∀ check ∈ state.currentPhase.checks after, isOptional check.id = true ∨
          check.fieldMet = true ∨ check.id ∈ after.acMet ∨ check.id ∈ after.acWaived := by
  have phase : (Handler.afterTurn ambient sessionId turn state).currentPhase =
      state.currentPhase := StateEngineService.currentPhase_turnResult ..
  have checks : ∀ phase : SessionPhase,
      phase.checks (Handler.afterTurn ambient sessionId turn state) =
        phase.checks (applied ambient state turn.entities turn.acUpdates) := by
    intro phase
    cases phase <;> rfl
  dsimp only
  rw [phase]
  by_cases working : state.currentPhase = .signedOff
  · rw [working]
    simp [SessionPhase.evaluateAc]
  · rw [SessionPhase.evaluateAc_ready_iff working, checks]
    exact (and_iff_right working).symm

section Turn

variable {sessionId : String} {id : Uuid} {state : SessionState}
  {service : StateEngineService} {request : TurnReq}

/-- Where advertised readiness is sound, a terminal gap that is delivered is backed. -/
theorem backed_of_sound (parsed : Runtime.parse sessionId = some id)
    (stored : service.sessions id = some state)
    (sound : ReadinessSound servicer environment ambient rpcError sessionId id request service)
    (spoken : request.message ≠ "") (available : servicer.protoAvailable = true)
    (cost : ∃ cost, FloatRounding.single (turnContext servicer state).budget.spentUsd =
      .finite cost)
    {prepared : PipelineState}
    (ready : Prepared servicer environment state request.message prepared)
    (delivered : Delivered servicer environment prepared)
    (terminal : TerminalGap servicer environment state request.message) :
    Backed servicer environment ambient state prepared := by
  obtain ⟨turn, completes⟩ :=
    exists_completes servicer environment state request.message ready delivered
  obtain ⟨_, reports⟩ :=
    reports_of_completes servicer environment state request.message ready completes
  have advertises := (Handler.advertises_of_completes servicer environment ambient rpcError
    parsed stored spoken available completes).mpr
      ⟨reports.cost ▸ cost, reports.ready.mpr terminal, rfl⟩
  rcases sound _ advertises with ⟨notAborted, after, found, evaluated⟩
  obtain ⟨texts, processed⟩ := Handler.processTurn_of_completes servicer environment ambient
    rpcError parsed stored spoken available completes
  rw [processed] at found
  rcases Option.some.inj ((Machines.Store.insert_self _ _ _).symm.trans found) with rfl
  rcases (evaluateAc_afterTurn ambient sessionId turn state).mp evaluated with ⟨working, met⟩
  constructor
  · intro error raised
    rw [Handler.aborted_completionData, reports.aborted.mpr ⟨error, raised⟩] at notAborted
    cases notAborted
  · exact working
  · intro entities mapped
    rw [reports.entities, Except.ok.injEq] at mapped
    subst mapped
    rw [← reports.acUpdates]
    exact met

/-- A backed turn that advertises readiness was not aborted and left the session ready. -/
theorem sound_of_earned (parsed : Runtime.parse sessionId = some id)
    (stored : service.sessions id = some state)
    (earned : ReadinessEarned servicer environment ambient state request.message) :
    ReadinessSound servicer environment ambient rpcError sessionId id request service := by
  intro data advertises
  rcases exists_prepared servicer environment state request.message with ⟨prepared, ready⟩
  obtain ⟨spoken, available, turn, completes⟩ := Handler.completes_of_advertises servicer
    environment ambient rpcError parsed stored advertises
  obtain ⟨delivered, reports⟩ :=
    reports_of_completes servicer environment state request.message ready completes
  obtain ⟨cost, flagged, rfl⟩ := (Handler.advertises_of_completes servicer environment
    ambient rpcError parsed stored spoken available completes).mp advertises
  have backed := earned spoken available (reports.cost ▸ cost) prepared ready.returned
    delivered (reports.ready.mp flagged)
  constructor
  · rw [Handler.aborted_completionData, Json.bool.injEq, Bool.eq_false_iff]
    intro failed
    rcases reports.aborted.mp failed with ⟨error, raised⟩
    exact backed.guided error raised
  · obtain ⟨texts, same⟩ := Handler.processTurn_of_completes servicer environment ambient
      rpcError parsed stored spoken available completes
    refine ⟨Handler.afterTurn ambient sessionId turn state, ?_, ?_⟩
    · rw [same]
      exact Machines.Store.insert_self _ _ _
    · apply (evaluateAc_afterTurn ambient sessionId turn state).mpr
      rw [reports.acUpdates]
      exact ⟨backed.working, backed.met _ reports.entities⟩

/-- Advertised readiness is sound exactly for the turns whose terminal gap is backed. -/
theorem readinessSound_iff (parsed : Runtime.parse sessionId = some id)
    (stored : service.sessions id = some state) :
    ReadinessSound servicer environment ambient rpcError sessionId id request service ↔
      ReadinessEarned servicer environment ambient state request.message := by
  constructor
  · intro sound spoken available cost prepared returned delivered terminal
    rcases exists_prepared servicer environment state request.message with ⟨other, ready⟩
    have same := ready.returned
    rw [returned, Except.ok.injEq] at same
    subst same
    exact backed_of_sound servicer environment ambient rpcError parsed stored sound spoken
      available cost ready delivered terminal
  · exact sound_of_earned servicer environment ambient rpcError parsed stored

end Turn

end Soundness

/-! ### A gap that the session does not back -/

section Sample

attribute [local instance] referenceRuntime referenceRendering

/-- A servicer whose section of the configuration declares the bound of the queue. -/
def sampleServicer : AiOrchestrationServicer where
  protoAvailable := true
  config := {}
  tokenQueueMaxsize := .ok 256
  redis := .absent

def sampleFresh : SessionState := .new 0xA1 1700000000000000000 1 2

def sampleMessage : String := "We send invoices by hand."

/-- The turn extracts nothing, and its gap fits into the message. -/
theorem sampleServicer_prepared {prepared : PipelineState}
    (ready : Prepared sampleServicer sampleEnvironment sampleFresh sampleMessage prepared) :
    prepared.extractedEntities = [] ∧ prepared.acUpdates = [] ∧ Fits prepared := by
  have facts : (PipelineExecutor.prepare sampleServicer.config sampleEnvironment
      (opening sampleServicer sampleFresh sampleMessage)).toOption.map (fun prepared =>
        (prepared.extractedEntities.length, prepared.acUpdates.length,
          prepared.gapAnalysis.map fun gap =>
            ((protoString gap.criterionId).toOption,
              (protoString gap.suggestedQuestion).toOption))) =
        some (0, 0, some (some "x", some "")) := by
    decide +kernel
  rw [ready.returned] at facts
  simp only [Except.toOption, Option.map_some, Option.some.injEq, Prod.mk.injEq,
    List.length_eq_zero_iff] at facts
  rcases facts with ⟨noEntities, noUpdates, gap⟩
  have entities : ∃ protos, prepared.extractedEntities.mapM entityToProto = .ok protos :=
    ⟨[], by rw [noEntities]; rfl⟩
  exact ⟨noEntities, noUpdates, fits_of_written entities gap⟩

/-- The stream of the sample has an end. -/
theorem sampleEnvironment_guidance (prepared : PipelineState) :
    (guidance sampleServicer sampleEnvironment prepared).outcome ≠ .timesOut ∧
      ∀ text ∈ (guidance sampleServicer sampleEnvironment prepared).tokens,
        text.toString?.isSome = true := by
  rw [guidance, GuidanceGenerator.generate]
  cases GuidanceGenerator.buildRequest sampleServicer.config sampleEnvironment prepared with
  | error error => simp
  | ok request => simp [sampleEnvironment]

/-- The model calls the gap terminal. -/
theorem sampleEnvironment_terminal :
    TerminalGap sampleServicer sampleEnvironment sampleFresh sampleMessage := by
  constructor
  · decide +kernel
  · have heard : (GapAnalyzer.heardGap sampleServicer.config sampleEnvironment
        (contributed sampleServicer sampleEnvironment sampleFresh sampleMessage)).map
          (·.isTerminal) = some true := by
      decide +kernel
    rcases Option.map_eq_some_iff.mp heard with ⟨gap, supplied, terminal⟩
    rw [supplied]
    exact terminal

def sampleId : String := "00000000-0000-0000-0000-0000000000a1"

def sampleService : StateEngineService where
  sessions := Machines.Store.empty.insert 0xA1 sampleFresh

theorem sampleService_stored : sampleService.sessions 0xA1 = some sampleFresh := by
  rw [sampleService]
  exact Machines.Store.empty.insert_self 0xA1 sampleFresh

def sampleTurn : TurnReq where
  message := sampleMessage
  workspaceId := "00000000-0000-0000-0000-000000000001"

def sampleRpcError (error : PyError) : String := error.message

theorem readinessSound_iff_sampleTurn :
    ReadinessSound sampleServicer sampleEnvironment sampleAmbient sampleRpcError sampleId 0xA1
        sampleTurn sampleService ↔
      ReadinessEarned sampleServicer sampleEnvironment sampleAmbient sampleFresh
        sampleMessage :=
  readinessSound_iff sampleServicer sampleEnvironment sampleAmbient sampleRpcError
    (by decide +kernel) sampleService_stored

/-- A fresh session is advertised as ready because the model says so. -/
theorem not_readinessSound_of_sampleTurn :
    ¬∀ servicer environment ambient rpcError sessionId id request service,
      Runtime.parse sessionId = some id → (service.sessions id).isSome = true →
        ReadinessSound servicer environment ambient rpcError sessionId id request service := by
  intro all
  obtain ⟨prepared, ready⟩ :=
    exists_prepared sampleServicer sampleEnvironment sampleFresh sampleMessage
  rcases sampleServicer_prepared ready with ⟨noEntities, noUpdates, fits⟩
  rcases sampleEnvironment_guidance prepared with ⟨ended, valid⟩
  have delivered : Delivered sampleServicer sampleEnvironment prepared :=
    ⟨⟨256, rfl⟩, rfl, ended, valid, fits⟩
  have parsed : Runtime.parse sampleId = some 0xA1 := by decide +kernel
  have sound := all sampleServicer sampleEnvironment sampleAmbient sampleRpcError sampleId 0xA1
    sampleTurn sampleService parsed (sampleService_stored ▸ rfl)
  have backed := backed_of_sound sampleServicer sampleEnvironment sampleAmbient sampleRpcError
    parsed sampleService_stored sound (by decide) rfl ⟨0, rfl⟩ ready delivered
    sampleEnvironment_terminal
  have met := backed.met [] (by rw [noEntities]; rfl)
  rw [noUpdates] at met
  exact absurd met (by decide)

end Sample

end Chitragupt
