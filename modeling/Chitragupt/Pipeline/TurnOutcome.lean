import Chitragupt.Pipeline.FallbackAgreement
import Chitragupt.Pipeline.TurnStream

/-!
# The outcome of a turn on a session

On the document of a session no node before the guidance raises, so the graph reaches
the guidance with a gap.  The gap is terminal when the model says so, or when it supplies
none and the fallback table is exhausted; a revisit never ends in a terminal gap.
-/

namespace Chitragupt

open Python (PyError Json)

namespace RevisitHandler

theorem getField_moveTo {name : String} (target : String) (session default : Json)
    (phase : name ≠ "current_phase") (revisit : name ≠ "revisit_target") :
    getField (moveTo target session) name default = getField session name default := by
  cases session with
  | dict entries =>
      rw [moveTo, getField, getField, Python.lookup_assign_of_ne,
        Python.lookup_assign_of_ne]
      · exact fun same => phase (Text.ofString_inj.mp same)
      · exact fun same => revisit (Text.ofString_inj.mp same)
  | null | bool value | int value | float value | str value | list items => rfl

theorem reentryGap_isTerminal (target : String) (unmet : List Fallback) :
    (reentryGap target unmet).isTerminal = false := by
  cases unmet <;> rfl

/-- The document of a session never stops the handler. -/
theorem handle_toJson [Runtime] {state : PipelineState} {session : SessionState}
    (document : state.sessionState = session.toJson) :
    ∃ after, handle state = .ok after ∧
      ∃ sessionState intent gap extractedEntities acUpdates, after =
        { state with
          sessionState, intent, gapAnalysis := some gap, extractedEntities, acUpdates } ∧
      gap.isTerminal = false := by
  rw [handle]
  cases extractTargetPhase (Text.lower state.userMessage) with
  | none => exact ⟨_, rfl, _, _, _, _, _, rfl, rfl⟩
  | some target =>
      have met : getField (moveTo target session.toJson) "ac_met" (.list []) =
          listJson .ofString session.acMet :=
        (getField_moveTo _ _ _ (by decide) (by decide)).trans
          (session.getField_toJson _ (by simp [SessionState.jsonFields]))
      have waived : getField (moveTo target session.toJson) "ac_waived" (.list []) =
          listJson .ofString session.acWaived :=
        (getField_moveTo _ _ _ (by decide) (by decide)).trans
          (session.getField_toJson _ (by simp [SessionState.jsonFields]))
      obtain ⟨table, found⟩ : ∃ table, GapAnalyzer.fallbacksOf (.ofString target) =
          .ok table := ⟨_, rfl⟩
      simp only [document, found, met, waived, bind, Except.bind,
        GapAnalyzer.unmetOf_listJson]
      exact ⟨_, rfl, _, _, _, _, _, rfl, reentryGap_isTerminal target _⟩

/-- On the document of a session the handler asks a question. -/
theorem call_toJson [Runtime] {state : PipelineState} {session : SessionState}
    (document : state.sessionState = session.toJson) :
    ∃ sessionState intent gap extractedEntities acUpdates, call state =
        { state with
          sessionState, intent, gapAnalysis := some gap, extractedEntities, acUpdates } ∧
      gap.isTerminal = false := by
  rcases handle_toJson document with ⟨after, handled, shape⟩
  rw [call_of_ok handled]
  exact shape

/-- On the document of a session every target is resolved. -/
theorem resolves_toJson [Runtime] {state : PipelineState} {session : SessionState}
    (document : state.sessionState = session.toJson) {target : String} :
    Resolves state target ↔
      extractTargetPhase (Text.lower state.userMessage) = some target := by
  obtain ⟨after, handled, _⟩ := handle_toJson document
  exact and_iff_left ⟨after, handled⟩

end RevisitHandler

/-! ## The state that reaches the guidance -/

section Prepare

variable [Runtime] [Rendering] (servicer : AiOrchestrationServicer)
  (environment : Environment) (state : SessionState) (message : String)

/-- The context of a turn on a session. -/
def turnContext : SessionLLMContext := .forTurn servicer.config servicer.redis state.toJson

/-- The state that enters the graph. -/
def opening : PipelineState :=
  PipelineExecutor.initialState state.toJson (.ofString message) (turnContext servicer state)

/-- The state after the intent classifier. -/
def classified : PipelineState :=
  IntentClassifier.call servicer.config environment (opening servicer state message)

/-- The state that a new contribution brings to the gap analyzer. -/
def contributed : PipelineState :=
  RagRetrieval.call servicer.config environment
    (EntityExtractor.call servicer.config environment
      (classified servicer environment state message))

/-- The turn is a contribution, and the gap of the model is terminal; or the model
supplies none and the session lists every criterion of the fallback table. -/
def TerminalGap : Prop :=
  PipelineExecutor.routeAfterIntent (classified servicer environment state message) =
      .default ∧
    (GapAnalyzer.heardGap servicer.config environment
        (contributed servicer environment state message)).elim
      (GapAnalyzer.unlisted state = []) (·.isTerminal = true)

/-- What the graph hands to the guidance. -/
structure Prepared (prepared : PipelineState) : Prop where
  returned : PipelineExecutor.prepare servicer.config environment
    (opening servicer state message) = .ok prepared
  gap : ∃ gap, prepared.gapAnalysis = some gap ∧
    (gap.isTerminal = true ↔ TerminalGap servicer environment state message)
  running : prepared.pipelineAborted = false

theorem prepare_opening :
    PipelineExecutor.prepare servicer.config environment (opening servicer state message) =
      match PipelineExecutor.routeAfterIntent
          (classified servicer environment state message) with
      | .revisit =>
          .ok (RevisitHandler.call (classified servicer environment state message))
      | .default =>
          GapAnalyzer.call servicer.config environment
            (contributed servicer environment state message) := rfl

theorem exists_prepared :
    ∃ prepared, Prepared servicer environment state message prepared := by
  obtain ⟨intent, errors, intended⟩ := IntentClassifier.call_eq servicer.config environment
    (opening servicer state message)
  rw [← classified] at intended
  cases route : PipelineExecutor.routeAfterIntent
      (classified servicer environment state message) with
  | revisit =>
      have document : (classified servicer environment state message).sessionState =
          state.toJson := by
        rw [intended]
        rfl
      rcases RevisitHandler.call_toJson document with ⟨_, _, gap, _, _, handled, question⟩
      refine ⟨RevisitHandler.call (classified servicer environment state message),
        ?_, ⟨gap, ?_, ?_⟩, ?_⟩
      · rw [prepare_opening, route]
      · rw [handled]
      · rw [question, TerminalGap, route]
        simp
      · rw [handled, intended]
        rfl
  | default =>
      obtain ⟨_, _, _, extracted⟩ := EntityExtractor.call_eq servicer.config environment
        (classified servicer environment state message)
      obtain ⟨_, _, retrieved⟩ := RagRetrieval.call_eq servicer.config environment
        (EntityExtractor.call servicer.config environment
          (classified servicer environment state message))
      rw [← contributed, extracted, intended] at retrieved
      have fallback : GapAnalyzer.deterministicFallback
          (contributed servicer environment state message).llmCtx.currentPhase
          (contributed servicer environment state message).sessionState =
            .ok (GapAnalyzer.gapOf (GapAnalyzer.unlisted state)) := by
        rw [retrieved]
        exact GapAnalyzer.deterministicFallback_toJson state
      rcases GapAnalyzer.call_eq servicer.config environment fallback with ⟨errors, analyzed⟩
      have returned := prepare_opening servicer environment state message
      rw [route] at returned
      refine ⟨_, returned.trans analyzed, ⟨_, rfl, ?_⟩, ?_⟩
      · rw [TerminalGap, route]
        cases GapAnalyzer.heardGap servicer.config environment
            (contributed servicer environment state message) with
        | none => simp
        | some gap => simp
      · rw [retrieved]
        rfl

end Prepare

/-! ## The run and its message -/

section Messages

variable [FloatRounding]

/-- Every text that a completed turn reports fits into its message. -/
structure Fits (prepared : PipelineState) : Prop where
  entities : ∃ protos, prepared.extractedEntities.mapM entityToProto = .ok protos
  gap : ∀ gap ∈ prepared.gapAnalysis,
    (∃ id, protoString gap.criterionId = .ok id) ∧
      ∃ question, protoString gap.suggestedQuestion = .ok question

/-- A gap whose id and question can be written fits. -/
theorem fits_of_written {prepared : PipelineState}
    (entities : ∃ protos, prepared.extractedEntities.mapM entityToProto = .ok protos)
    {id question : String}
    (written : prepared.gapAnalysis.map (fun gap => ((protoString gap.criterionId).toOption,
      (protoString gap.suggestedQuestion).toOption)) = some (some id, some question)) :
    Fits prepared := by
  refine ⟨entities, fun gap member => ?_⟩
  rw [Option.mem_def.mp member, Option.map_some, Option.some.injEq, Prod.mk.injEq,
    Python.toOption_eq_some, Python.toOption_eq_some] at written
  exact ⟨⟨id, written.1⟩, question, written.2⟩

/-- The message of a result, field by field. -/
theorem buildTurnComplete_eq_ok {result : TurnResult} {turn : TurnComplete} :
    buildTurnComplete result = .ok turn ↔
      ∃ entities criterionId question,
        result.entities.mapM entityToProto = .ok entities ∧
        (result.gapAnalysis.elim (.ok "") fun gap => protoString gap.criterionId) =
          .ok criterionId ∧
        (result.gapAnalysis.elim (.ok "") fun gap => protoString gap.suggestedQuestion) =
          .ok question ∧
        turn =
          { intent := result.intent
            entities
            acUpdates := result.acUpdates.map acUpdateToProto
            transitionReady := result.gapAnalysis.elim false (·.isTerminal)
            gapCriterionId := criterionId
            suggestedQuestion := question
            costUsd := FloatRounding.single result.costUsd
            nodeErrors := result.nodeErrors
            aborted := result.aborted } := by
  simp only [buildTurnComplete, Python.bind_eq_ok, Python.pure_eq_ok]
  constructor
  · rintro ⟨entities, mapped, id, named, question, asked, rfl⟩
    exact ⟨entities, id, question, mapped, named, asked, rfl⟩
  · rintro ⟨entities, id, question, mapped, named, asked, rfl⟩
    exact ⟨entities, mapped, id, named, question, asked, rfl⟩

end Messages

section Run

variable [Runtime] [Rendering] (servicer : AiOrchestrationServicer)
  (environment : Environment) (state : SessionState) (message : String)

/-- What the guidance does with a prepared state. -/
def guidance (prepared : PipelineState) : Generation PipelineState :=
  GuidanceGenerator.generate servicer.config environment prepared

/-- What has to hold for a turn to be completed: the queue can be built, nothing
outlasts the ceiling, and every text fits into its message. -/
structure Delivered (prepared : PipelineState) : Prop where
  bounded : ∃ maxsize, servicer.tokenQueueMaxsize = .ok maxsize
  prompt : environment.slowNodes = false
  ended : (guidance servicer environment prepared).outcome ≠ .timesOut
  valid : ∀ text ∈ (guidance servicer environment prepared).tokens,
    text.toString?.isSome = true
  fits : Fits prepared

/-- What a completed turn reports. -/
structure Reports (prepared : PipelineState) (turn : TurnComplete) : Prop where
  entities : prepared.extractedEntities.mapM entityToProto = .ok turn.entities
  acUpdates : turn.acUpdates = prepared.acUpdates.map acUpdateToProto
  ready : turn.transitionReady = true ↔ TerminalGap servicer environment state message
  aborted : turn.aborted = true ↔
    ∃ error, (guidance servicer environment prepared).outcome = .raises error
  cost : turn.costUsd = FloatRounding.single (turnContext servicer state).budget.spentUsd

/-- The result of the graph, from what the guidance does. -/
def resultOf (prepared : PipelineState) : Outcome TurnResult :=
  match (guidance servicer environment prepared).outcome with
  | .returns final => .returns (.ofState (turnContext servicer state) final)
  | .raises error =>
      .returns (.ofState (turnContext servicer state)
        (GuidanceGenerator.abort prepared error))
  | .timesOut => .timesOut

theorem runGraph_opening {prepared : PipelineState}
    (ready : Prepared servicer environment state message prepared)
    (prompt : environment.slowNodes = false) :
    PipelineExecutor.runGraph servicer.config environment (opening servicer state message) =
      { tokens := (guidance servicer environment prepared).tokens
        outcome := resultOf servicer environment state prepared } := by
  have invoked : PipelineExecutor.invoke servicer.config environment
      (opening servicer state message) =
        GuidanceGenerator.call servicer.config environment prepared := by
    rw [PipelineExecutor.invoke, prompt, ready.returned]
    rfl
  unfold PipelineExecutor.runGraph
  rw [invoked]
  dsimp only
  rw [GuidanceGenerator.tokens_call, resultOf, guidance]
  unfold GuidanceGenerator.call
  dsimp only
  cases outcome : (GuidanceGenerator.generate servicer.config environment prepared).outcome with
  | returns final => simp only [outcome, opening, PipelineExecutor.initialState]
  | raises error => simp only [opening, PipelineExecutor.initialState]
  | timesOut => simp only [outcome]

/-- The run of a servicer with a bound for its queue. -/
theorem runTurn_eq {maxsize : Int} (bounded : servicer.tokenQueueMaxsize = .ok maxsize) :
    servicer.runTurn environment state.toJson message =
      { tokens := (PipelineExecutor.runGraph servicer.config environment
          (opening servicer state message)).tokens
        ending :=
          match (PipelineExecutor.runGraph servicer.config environment
              (opening servicer state message)).outcome with
          | .returns result => if result.aborted then .aborted result else .finished result
          | .raises error => .raised error
          | .timesOut => .raised PipelineExecutor.cancelled } := by
  unfold AiOrchestrationServicer.runTurn PipelineExecutor.run
  rw [bounded]
  rfl

/-- How the result of a run derives from the prepared state. -/
structure Results (prepared : PipelineState) (result : TurnResult) : Prop where
  entities : result.entities = prepared.extractedEntities
  acUpdates : result.acUpdates = prepared.acUpdates
  gap : result.gapAnalysis = prepared.gapAnalysis
  aborted : result.aborted = true ↔
    ∃ error, (guidance servicer environment prepared).outcome = .raises error
  cost : result.costUsd = (turnContext servicer state).budget.spentUsd

theorem exists_results {prepared : PipelineState}
    (ready : Prepared servicer environment state message prepared)
    (ended : (guidance servicer environment prepared).outcome ≠ .timesOut) :
    ∃ result, resultOf servicer environment state prepared = .returns result ∧
      Results servicer environment state prepared result := by
  rw [resultOf]
  rcases GuidanceGenerator.generate_cases servicer.config environment prepared with
    ⟨tokens, returned⟩ | ⟨error, raised⟩ | stalled
  · rw [← guidance] at returned
    refine ⟨_, by rw [returned], rfl, rfl, rfl, ?_, rfl⟩
    rw [returned]
    simp [TurnResult.ofState, ready.running]
  · rw [← guidance] at raised
    refine ⟨_, by rw [raised], rfl, rfl, rfl, ?_, rfl⟩
    rw [raised]
    simp [TurnResult.ofState, GuidanceGenerator.abort]
  · exact absurd stalled ended

/-- A run ends with a result exactly when it has a queue and nothing outlasts the
ceiling. -/
theorem runTurn_result {prepared : PipelineState}
    (ready : Prepared servicer environment state message prepared) {result : TurnResult} :
    (servicer.runTurn environment state.toJson message).ending.result? = some result ↔
      (∃ maxsize, servicer.tokenQueueMaxsize = .ok maxsize) ∧
        environment.slowNodes = false ∧
        resultOf servicer environment state prepared = .returns result := by
  cases bounded : servicer.tokenQueueMaxsize with
  | error error =>
      rw [runTurn_of_lookup servicer environment bounded]
      simp [RunEnding.result?]
  | ok maxsize =>
      rw [runTurn_eq servicer environment state message bounded]
      cases prompt : environment.slowNodes with
      | true =>
          have stalled : (PipelineExecutor.runGraph servicer.config environment
              (opening servicer state message)).outcome = .timesOut := by
            rw [PipelineExecutor.runGraph, PipelineExecutor.invoke]
            rw [prompt]
            rfl
          rw [stalled]
          simp [RunEnding.result?]
      | false =>
          rw [runGraph_opening servicer environment state message ready prompt]
          dsimp only
          cases resultOf servicer environment state prepared with
          | returns found =>
              dsimp only
              split <;> simp [RunEnding.result?]
          | raises error => simp [RunEnding.result?]
          | timesOut => simp [RunEnding.result?]

/-- The tokens of a run that starts its graph in time. -/
theorem tokens_runTurn {prepared : PipelineState}
    (ready : Prepared servicer environment state message prepared) {maxsize : Int}
    (bounded : servicer.tokenQueueMaxsize = .ok maxsize)
    (prompt : environment.slowNodes = false) :
    (servicer.runTurn environment state.toJson message).tokens =
      (guidance servicer environment prepared).tokens := by
  rw [runTurn_eq servicer environment state message bounded,
    runGraph_opening servicer environment state message ready prompt]

/-- A completed turn was delivered, and its message reports the prepared state. -/
theorem reports_of_completes {prepared : PipelineState}
    (ready : Prepared servicer environment state message prepared) {turn : TurnComplete}
    (completes : Completes (servicer.runTurn environment state.toJson message) turn) :
    Delivered servicer environment prepared ∧
      Reports servicer environment state message prepared turn := by
  rcases completes.built with ⟨result, some, built⟩
  obtain ⟨⟨maxsize, bounded⟩, prompt, returned⟩ :=
    (runTurn_result servicer environment state message ready).mp some
  have ended : (guidance servicer environment prepared).outcome ≠ .timesOut := by
    intro stalled
    rw [resultOf, stalled] at returned
    cases returned
  obtain ⟨same, found, results⟩ :=
    exists_results servicer environment state message ready ended
  rw [returned, Outcome.returns.injEq] at found
  subst found
  obtain ⟨entities, id, question, mapped, named, asked, rfl⟩ :=
    buildTurnComplete_eq_ok.mp built
  rcases ready.gap with ⟨gap, present, terminal⟩
  rw [results.gap, present] at named asked
  rw [results.entities] at mapped
  constructor
  · refine ⟨⟨maxsize, bounded⟩, prompt, ended, ?_, ⟨entities, mapped⟩, ?_⟩
    · rw [← tokens_runTurn servicer environment state message ready bounded prompt]
      exact completes.valid
    · intro other member
      rw [present, Option.mem_def, Option.some.injEq] at member
      subst member
      exact ⟨⟨id, named⟩, question, asked⟩
  · refine ⟨mapped, ?_, ?_, results.aborted,
      congrArg FloatRounding.single results.cost⟩
    · rw [results.acUpdates]
    · rw [results.gap, present]
      exact terminal

/-- A turn that can be delivered is completed. -/
theorem exists_completes {prepared : PipelineState}
    (ready : Prepared servicer environment state message prepared)
    (delivered : Delivered servicer environment prepared) :
    ∃ turn, Completes (servicer.runTurn environment state.toJson message) turn := by
  rcases delivered.bounded with ⟨maxsize, bounded⟩
  obtain ⟨result, returned, results⟩ :=
    exists_results servicer environment state message ready delivered.ended
  rcases delivered.fits.entities with ⟨protos, mapped⟩
  rcases ready.gap with ⟨gap, present, _⟩
  rcases delivered.fits.gap gap present with ⟨⟨id, named⟩, question, asked⟩
  refine ⟨_, ?_, result, ?_, buildTurnComplete_eq_ok.mpr
    ⟨protos, id, question, ?_, ?_, ?_, rfl⟩⟩
  · rw [tokens_runTurn servicer environment state message ready bounded delivered.prompt]
    exact delivered.valid
  · exact (runTurn_result servicer environment state message ready).mpr
      ⟨delivered.bounded, delivered.prompt, returned⟩
  · rw [results.entities]
    exact mapped
  · rw [results.gap, present]
    exact named
  · rw [results.gap, present]
    exact asked

/-- The stream of a request with the message of a session. -/
theorem runPipeline_stateToProto (available : servicer.protoAvailable = true) :
    servicer.runPipeline environment
        { sessionState := StateEngineService.stateToProto state, userMessage := message } =
      streamOf (servicer.runTurn environment state.toJson message) := by
  rw [AiOrchestrationServicer.runPipeline]
  rw [available]
  rfl

/-- A turn on a session is well terminated exactly when it can be delivered. -/
theorem wellTerminated_iff {prepared : PipelineState}
    (ready : Prepared servicer environment state message prepared) :
    WellTerminated servicer environment
        { sessionState := StateEngineService.stateToProto state, userMessage := message } ↔
      servicer.protoAvailable = true ∧ Delivered servicer environment prepared := by
  cases available : servicer.protoAvailable with
  | false =>
      apply iff_of_false
      · rintro ⟨⟨texts, turn, events⟩, _⟩
        rw [AiOrchestrationServicer.runPipeline] at events
        rw [available] at events
        cases texts <;> cases events
      · simp
  | true =>
      have stream := runPipeline_stateToProto servicer environment state message available
      constructor
      · rintro ⟨⟨texts, turn, events⟩, _⟩
        have sent : .complete turn ∈
            (streamOf (servicer.runTurn environment state.toJson message)).events := by
          rw [← stream, events, complete_mem_eventsOf]
        exact ⟨rfl, (reports_of_completes servicer environment state message ready
          (complete_mem_streamOf.mp sent)).1⟩
      · rintro ⟨_, delivered⟩
        obtain ⟨turn, completes⟩ :=
          exists_completes servicer environment state message ready delivered
        obtain ⟨texts, completed, error, shape, _, exactly⟩ :=
          streamOf_eq (servicer.runTurn environment state.toJson message)
        constructor
        · refine ⟨texts, turn, ?_⟩
          rw [stream, shape, (exactly turn).mpr completes]
        · intro session document error raised
          have same : state.toJson = session := Except.ok.inj document
          rcases completes.built with ⟨result, some, _⟩
          rw [same, raised] at some
          cases some

/-- Whatever the lookup of the queue's bound gives, a turn on a session is well terminated
exactly when it can be delivered.  With a configuration of the declared classes the lookup
fails, and no turn is. -/
theorem wellTerminated_iff_delivered :
    (∃ prepared, Prepared servicer environment state message prepared ∧
      (WellTerminated servicer environment
          { sessionState := StateEngineService.stateToProto state, userMessage := message } ↔
        servicer.protoAvailable = true ∧ Delivered servicer environment prepared)) ∧
    ∀ protoAvailable config redis request,
      ¬WellTerminated (.new protoAvailable config redis) environment request := by
  constructor
  · obtain ⟨prepared, ready⟩ := exists_prepared servicer environment state message
    exact ⟨prepared, ready, wellTerminated_iff servicer environment state message ready⟩
  · intro protoAvailable config redis request
    exact not_wellTerminated environment request protoAvailable config redis

end Run

end Chitragupt
