import Chitragupt.Gateway.AbortedTurn
import Chitragupt.Gateway.SseStream
import Chitragupt.Pipeline.TokenDelivery

/-!
# What a turn shows

The tokens of a turn pass the queue of the executor, the messages of the servicer, the
client of the gateway and the event stream before anyone reads them.  Whoever decodes the
body of the response sees the tokens that the executor has yielded, up to the first that
no message takes, and behind them what has become of the session.
-/

namespace Chitragupt

open Python (Json PyError)
open Python.JsonWriter (NumberFormat)

/-! ## Tokens in messages -/

/-- The tokens that messages take, up to the first that they do not. -/
def sentTokens (tokens : List Text) : List Text :=
  tokens.takeWhile fun text => text.toString?.isSome

theorem sentTokens_eq {tokens : List Text}
    (valid : ∀ text ∈ tokens, text.toString?.isSome = true) : sentTokens tokens = tokens :=
  List.takeWhile_eq_self_iff.mpr valid

theorem tokenEvents_sentTokens (tokens : List Text) :
    ∃ texts, (tokenEvents tokens).1 = eventsOf texts none ∧
      texts.map Text.ofString = sentTokens tokens := by
  induction tokens with
  | nil => exact ⟨[], rfl, rfl⟩
  | cons text rest ih =>
      rcases ih with ⟨texts, events, sent⟩
      rw [tokenEvents, protoText, sentTokens, List.takeWhile_cons]
      cases valid : text.toString? with
      | none => exact ⟨[], rfl, rfl⟩
      | some token =>
          refine ⟨token :: texts, ?_, ?_⟩
          · dsimp only
            rw [events]
            rfl
          · rw [Text.toString?_eq_some.mp valid, Option.isSome_some, if_pos rfl, List.map_cons]
            rw [sent, sentTokens]

section Streams

variable [FloatRounding]

/-- The token events of a stream carry the tokens that messages take. -/
theorem texts_streamOf {run : PipelineRun} {texts : List String}
    {completed : Option TurnComplete} {error : Option PyError}
    (stream : streamOf run = { events := eventsOf texts completed, error }) :
    texts.map Text.ofString = sentTokens run.tokens := by
  have carried : ∃ sent last, (streamOf run).events = eventsOf sent last ∧
      sent.map Text.ofString = sentTokens run.tokens := by
    rcases tokenEvents_sentTokens run.tokens with ⟨sent, events, same⟩
    rw [streamOf]
    cases made : tokenEvents run.tokens with
    | mk first failed =>
        rw [made] at events
        dsimp only at events
        subst events
        cases failed with
        | some error => exact ⟨sent, none, rfl, same⟩
        | none =>
            cases run.ending with
            | raised error => exact ⟨sent, none, rfl, same⟩
            | finished result | aborted result =>
                rcases completeWith_eq sent result with ⟨last, error, ended, _⟩
                exact ⟨sent, last, congrArg EventStream.events ended, same⟩
  rcases carried with ⟨sent, last, events, same⟩
  rw [stream] at events
  have collected := congrArg (fun events => (PipelineResult.collect events).tokens) events
  simp only [PipelineResult.collect_eventsOf] at collected
  rw [collected, same]

end Streams

/-! ## The run behind a streaming -/

namespace TokenStreaming

theorem Orderly.yielded_eq {tokens : List Text} {state : TokenStreaming}
    (orderly : state.Orderly tokens) (ended : state.reader = .finished) :
    state.yielded = tokens ∧ state.task.result.isSome = true := by
  rcases state with ⟨queue, task, reader, yielded⟩
  rcases orderly with ⟨texts, marks, _, order, marked⟩
  cases task with
  | streaming rest result => exact absurd ended marked.2
  | closing result | finished result =>
      have empty := marked.2 ended
      subst empty
      exact ⟨by simpa [GraphTask.rest] using order, rfl⟩
  | cancelled => exact marked.elim

/-- The messages take every token that was yielded, and the result of the task. -/
structure Relayed [FloatRounding] (state : TokenStreaming) (turn : TurnComplete) : Prop where
  tokens : ∀ text ∈ state.yielded, text.toString?.isSome = true
  result : ∃ result, state.task.result = some result ∧ buildTurnComplete result = .ok turn

section Run

variable [Runtime] [Rendering] {servicer : AiOrchestrationServicer}
  {environment : Environment} {state : SessionState} {message : String} {maxsize : Int}
  {streaming : TokenStreaming}

/-- The tokens and the result of a run are those of any streaming that comes to its end. -/
theorem runTurn_of_finished (bounded : servicer.tokenQueueMaxsize = .ok maxsize)
    (reached : system.Reaches Undisturbed (opening maxsize servicer.config environment
      (Chitragupt.opening servicer state message)) streaming)
    (ended : streaming.reader = .finished) :
    (servicer.runTurn environment state.toJson message).tokens = streaming.yielded ∧
      (servicer.runTurn environment state.toJson message).ending.result? =
        streaming.task.result := by
  obtain ⟨orderly, _, same⟩ := undisturbed_invariant maxsize servicer.config environment
    (Chitragupt.opening servicer state message) reached
  rw [runTurn_eq servicer environment state message bounded]
  refine ⟨(orderly.yielded_eq ended).1.symm, ?_⟩
  rw [same, GraphTask.result_start]
  cases (PipelineExecutor.runGraph servicer.config environment
      (Chitragupt.opening servicer state message)).outcome with
  | returns result =>
      dsimp only
      split <;> rfl
  | raises error => rfl
  | timesOut => rfl

/-- A turn is relayed exactly when its run completes. -/
theorem relayed_iff (bounded : servicer.tokenQueueMaxsize = .ok maxsize)
    (reached : system.Reaches Undisturbed (opening maxsize servicer.config environment
      (Chitragupt.opening servicer state message)) streaming)
    (ended : streaming.reader = .finished) {turn : TurnComplete} :
    streaming.Relayed turn ↔
      Completes (servicer.runTurn environment state.toJson message) turn := by
  rcases runTurn_of_finished bounded reached ended with ⟨tokens, result⟩
  constructor
  · intro relayed
    exact ⟨tokens ▸ relayed.tokens, result ▸ relayed.result⟩
  · intro completes
    exact ⟨tokens ▸ completes.valid, result ▸ completes.built⟩

/-- A graph that ends has a streaming that comes to its end. -/
theorem exists_finished (maxsize : Int) (config : OrchestrationConfig)
    (environment : Environment) (initial : PipelineState)
    (ends : (GraphTask.start config environment initial).result.isSome = true) :
    ∃ streaming, system.Reaches Undisturbed (opening maxsize config environment initial)
      streaming ∧ streaming.reader = .finished := by
  rcases terminates.exists_stuck (opening maxsize config environment initial) with
    ⟨streaming, reached, stuck⟩
  obtain ⟨orderly, live, same⟩ :=
    undisturbed_invariant maxsize config environment initial reached
  rw [← same] at ends
  exact ⟨streaming, reached, (ended_of_stuck orderly live ends stuck).1⟩

end Run

end TokenStreaming

/-! ## What a client decodes -/

/-- The names of the events in a body, with the data that a client decodes. -/
def decodedEvents (room : Nat) (body : Text) : List (Text × Option Json) :=
  (ServerSentEvents.parse body).map fun frame =>
    (frame.name, (Python.loads room frame.data).toOption)

namespace GoJson

/-- A field of an object is found among the sorted keys. -/
theorem getField_reading (numbers : NumberFormat) {fields : List (String × Json)}
    (distinct : (fields.map Prod.fst).Nodup) {field : String × Json} (member : field ∈ fields)
    (default : Json) :
    getField ((style numbers).reading (sortKeys (objectJson fields))) field.1 default =
      (style numbers).reading field.2 := by
  have sorted := List.mergeSort_perm
    (fields.map fun field => (Text.ofString field.1, field.2))
    (fun entry other => keyLe entry.1 other.1)
  have named : ((fields.map Prod.fst).map Text.ofString).Nodup :=
    (List.nodup_map_iff fun _ _ => Text.ofString_inj.mp).mpr distinct
  rw [List.map_map] at named
  rw [objectJson, sortKeys, Python.JsonWriter.Style.reading,
    Python.JsonWriter.Style.readingEntries_eq_map, getField, Python.lookup_of_mem]
  · rfl
  · rw [List.map_map]
    refine (sorted.map _).nodup_iff.mpr ?_
    rw [List.map_map]
    exact named
  · refine List.mem_map.mpr ⟨(Text.ofString field.1, field.2), ?_, rfl⟩
    exact sorted.mem_iff.mpr (List.mem_map_of_mem member)

end GoJson

/-- The completion that a client has decoded: it has data where the cost is a number, and
they tell of the turn and of the session as it is stored now. -/
structure Tells (numbers : NumberFormat) (turn : TurnComplete) (after : SessionState)
    (shown : Text × Option Json) : Prop where
  name : shown.1 = .ofString "complete"
  written : shown.2.isSome = true ↔ ∃ cost, turn.costUsd = .finite cost
  fields : ∀ data ∈ shown.2, ∀ field ∈ Handler.completion (some turn)
      (some (StateEngineService.turnResultResponse after)),
    getField data field.1 .null = (GoJson.style numbers).reading field.2

theorem tells_completionEvent (numbers : NumberFormat) (turn : TurnComplete)
    (after : SessionState) :
    Tells numbers turn after ((Handler.completionEvent (some turn) after).name,
      (Handler.completionEvent (some turn) after).payload numbers) := by
  rw [Handler.completionEvent]
  refine ⟨rfl, ?_, ?_⟩
  · rw [SseEvent.payload, Option.isSome_map, SseEvent.document, Option.isSome_map,
      Option.isSome_iff_exists]
    simp only [Handler.marshal_completion, exists_and_left, exists_eq, and_true]
  · intro data carried field member
    rcases Option.map_eq_some_iff.mp carried with ⟨document, present, rfl⟩
    rcases Option.map_eq_some_iff.mp present with ⟨document, written, rfl⟩
    rcases (Handler.marshal_completion.mp written).2 with rfl
    exact GoJson.getField_reading numbers (Handler.nodup_completion_keys _ _) member .null

namespace Handler

section Main

variable [Runtime] [Rendering] (servicer : AiOrchestrationServicer)
  (environment : Environment) (ambient : Ambient) (rpcError : PyError → String)
  {sessionId : String} {id : Uuid} {state : SessionState} {service : StateEngineService}
  {request : TurnReq}

/-- The response to a turn on a stored session: its tokens, and then the completion of a
turn that has been applied, or an error behind which nothing has changed. -/
theorem processTurn_stored (parsed : Runtime.parse sessionId = some id)
    (stored : service.sessions id = some state) (spoken : request.message ≠ "")
    (available : servicer.protoAvailable = true) :
    let run := servicer.runTurn environment state.toJson request.message
    let processed := processTurn servicer environment ambient rpcError sessionId
      (some request) service
    ∃ (texts : List String) (last : SseEvent),
      texts.map Text.ofString = sentTokens run.tokens ∧
      processed.2 = .stream (texts.map SseEvent.token ++ [last]) ∧
      ((∃ turn, Completes run turn ∧
          processed.1.sessions =
            service.sessions.insert id (afterTurn ambient sessionId turn state) ∧
          last = completionEvent (some turn) (afterTurn ambient sessionId turn state)) ∨
        (∀ turn, ¬Completes run turn) ∧ processed.1 = service ∧
          ∃ message, last = .error message) := by
  obtain ⟨texts, completed, error, stream, last, exactly⟩ :=
    streamOf_eq (servicer.runTurn environment state.toJson request.message)
  have sent := texts_streamOf stream
  rw [processTurn]
  simp only [spoken, if_false, StateEngineService.getSessionState,
    StateEngineService.parseUuid, parsed, stored, StateEngineService.applyTurnResult,
    runPipeline_stateToProto servicer environment state request.message available, stream,
    PipelineResult.collect_eventsOf]
  cases error with
  | some error =>
      refine ⟨texts, _, sent, rfl, .inr ⟨?_, rfl, _, rfl⟩⟩
      intro turn completes
      cases last.mp (Option.isSome_iff_exists.mpr ⟨turn, (exactly turn).mpr completes⟩)
  | none =>
      rcases Option.isSome_iff_exists.mp (last.mpr rfl) with ⟨turn, rfl⟩
      exact ⟨texts, _, sent, rfl, .inl ⟨turn, (exactly turn).mp rfl, rfl, rfl⟩⟩

/-- What the response to a turn shows to whoever decodes it: the tokens that the executor
has yielded, up to the first that no message takes, and behind them the completion of a
turn that has been applied, or an error behind which nothing has changed. -/
def Shows (numbers : NumberFormat) (room : Nat) (sessionId : String) (id : Uuid)
    (service : StateEngineService) (state : SessionState) (streaming : TokenStreaming)
    (processed : StateEngineService × TurnResponse) : Prop :=
  ∃ events last, processed.2 = .stream events ∧
    decodedEvents room (responseBody numbers events) =
      (sentTokens streaming.yielded).map
        (fun text => (Text.ofString "token", some (.str text))) ++ [last] ∧
    ((∃ turn, streaming.Relayed turn ∧ sentTokens streaming.yielded = streaming.yielded ∧
        processed.1.sessions =
          service.sessions.insert id (afterTurn ambient sessionId turn state) ∧
        Tells numbers turn (afterTurn ambient sessionId turn state) last) ∨
      (∀ turn, ¬streaming.Relayed turn) ∧ processed.1 = service ∧
        ∃ message, last = (.ofString "error", some (.ofString message)))

/-- The response to a turn on a stored session shows what the executor has yielded, in
whatever order its task and its reader have taken their steps. -/
theorem turn_shown (parsed : Runtime.parse sessionId = some id)
    (stored : service.sessions id = some state) (spoken : request.message ≠ "")
    (available : servicer.protoAvailable = true) {maxsize : Int}
    (bounded : servicer.tokenQueueMaxsize = .ok maxsize) {streaming : TokenStreaming}
    (reached : TokenStreaming.system.Reaches TokenStreaming.Undisturbed
      (TokenStreaming.opening maxsize servicer.config environment
        (opening servicer state request.message)) streaming)
    (ended : streaming.reader = .finished) (numbers : NumberFormat) {room : Nat}
    (fits : 1 ≤ room) :
    Shows ambient numbers room sessionId id service state streaming
      (processTurn servicer environment ambient rpcError sessionId (some request) service) := by
  have relayed : ∀ turn, streaming.Relayed turn ↔
      Completes (servicer.runTurn environment state.toJson request.message) turn :=
    fun _ => TokenStreaming.relayed_iff bounded reached ended
  obtain ⟨texts, last, sent, answered, outcome⟩ := processTurn_stored servicer environment
    ambient rpcError parsed stored spoken available
  rw [(TokenStreaming.runTurn_of_finished bounded reached ended).1] at sent
  refine ⟨_, (last.name, last.payload numbers), answered, ?_, ?_⟩
  · rw [decodedEvents, decoded_responseBody (sendable_processTurn answered) fits,
      List.map_append, ← sent, List.map_map, List.map_map]
    rfl
  · rcases outcome with ⟨turn, completes, applied, rfl⟩ | ⟨incomplete, unchanged, message, rfl⟩
    · have carried := (relayed turn).mpr completes
      exact .inl ⟨turn, carried, sentTokens_eq carried.tokens, applied,
        tells_completionEvent numbers turn _⟩
    · refine .inr ⟨?_, unchanged, message, rfl⟩
      intro turn carried
      exact incomplete turn ((relayed turn).mp carried)

end Main

end Handler

section Sample

attribute [local instance] referenceRuntime referenceRendering

/-- The sample turn streams two tokens. -/
theorem turn_shown_sampleTurn : ∃ streaming : TokenStreaming,
    streaming.yielded = [.ofString "Shall", .ofString " we move on?"] ∧
      Handler.Shows sampleAmbient Python.JsonWriter.tenths 1 sampleId 0xA1 sampleService
        sampleFresh streaming
        (Handler.processTurn sampleServicer sampleEnvironment sampleAmbient sampleRpcError
          sampleId (some sampleTurn) sampleService) := by
  have facts : (GraphTask.start sampleServicer.config sampleEnvironment
      (opening sampleServicer sampleFresh sampleTurn.message)).result.isSome = true ∧
      (GraphTask.start sampleServicer.config sampleEnvironment
        (opening sampleServicer sampleFresh sampleTurn.message)).rest =
          [.ofString "Shall", .ofString " we move on?"] := by
    decide +kernel
  rcases TokenStreaming.exists_finished 256 sampleServicer.config sampleEnvironment
    (opening sampleServicer sampleFresh sampleTurn.message) facts.1 with ⟨streaming, reached, ended⟩
  have orderly := (TokenStreaming.undisturbed_invariant 256 sampleServicer.config
    sampleEnvironment (opening sampleServicer sampleFresh sampleTurn.message) reached).1
  refine ⟨streaming, ?_, ?_⟩
  · rw [(orderly.yielded_eq ended).1, ← GraphTask.rest_start, facts.2]
  · exact Handler.turn_shown sampleServicer sampleEnvironment sampleAmbient sampleRpcError
      (by decide +kernel) sampleService_stored (by decide) rfl rfl reached ended _ le_rfl

end Sample

end Chitragupt
