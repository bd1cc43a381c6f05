import Chitragupt.Pipeline.Servicer
import Chitragupt.StateMachine.Service

/-!
# The shape of the turn stream

A stream has token events and at most one completing event behind them.  The completing
event comes exactly when the run has a result and every text fits into its message.
With a configuration of the declared classes there never is one, since the executor
fails before it starts the graph.
-/

namespace Chitragupt

open Python (PyError Json)

/-! ## Streams of runs -/

/-- The events of tokens, with the event of a completed turn behind them. -/
def eventsOf (texts : List String) (completed : Option TurnComplete) : List PipelineEvent :=
  texts.map .token ++ (completed.map .complete).toList

@[simp] theorem complete_mem_eventsOf {turn : TurnComplete} {texts : List String}
    {completed : Option TurnComplete} :
    .complete turn ∈ eventsOf texts completed ↔ completed = some turn := by
  cases completed <;> simp [eventsOf, eq_comm]

theorem tokenEvents_eq_eventsOf (tokens : List Text) :
    ∃ texts, (tokenEvents tokens).1 = eventsOf texts none := by
  induction tokens with
  | nil => exact ⟨[], rfl⟩
  | cons text rest ih =>
      rcases ih with ⟨texts, tail⟩
      rw [tokenEvents]
      cases protoText text with
      | error error => exact ⟨[], rfl⟩
      | ok token =>
          refine ⟨token :: texts, ?_⟩
          dsimp only
          rw [tail]
          rfl

/-- The tokens are all sent when each of them fits into a message. -/
theorem tokenEvents_error (tokens : List Text) :
    (tokenEvents tokens).2 = none ↔ ∀ text ∈ tokens, text.toString?.isSome = true := by
  induction tokens with
  | nil => simp [tokenEvents]
  | cons text rest ih =>
      rw [tokenEvents, protoText, List.forall_mem_cons, ← ih]
      cases text.toString? <;> simp

section Streams

variable [FloatRounding]

/-- What completes the stream of a run: valid tokens, and a result that the message
takes. -/
structure Completes (run : PipelineRun) (turn : TurnComplete) : Prop where
  valid : ∀ text ∈ run.tokens, text.toString?.isSome = true
  built : ∃ result, run.ending.result? = some result ∧ buildTurnComplete result = .ok turn

theorem completeWith_eq (texts : List String) (result : TurnResult) :
    ∃ completed error, completeWith (eventsOf texts none) result =
        { events := eventsOf texts completed, error } ∧
      (completed.isSome = true ↔ error = none) ∧
      ∀ turn, completed = some turn ↔ buildTurnComplete result = .ok turn := by
  rw [completeWith]
  cases buildTurnComplete result with
  | ok turn => exact ⟨some turn, none, by simp [eventsOf], by simp, by simp⟩
  | error error => exact ⟨none, some error, rfl, by simp, by simp⟩

/-- The stream of a run is made of tokens and the completing event, which is missing
exactly when an exception ends the stream. -/
theorem streamOf_eq (run : PipelineRun) :
    ∃ texts completed error,
      streamOf run = { events := eventsOf texts completed, error } ∧
        (completed.isSome = true ↔ error = none) ∧
        ∀ turn, completed = some turn ↔ Completes run turn := by
  rcases tokenEvents_eq_eventsOf run.tokens with ⟨texts, tokens⟩
  have valid := tokenEvents_error run.tokens
  rw [streamOf]
  cases sent : tokenEvents run.tokens with
  | mk events error =>
      rw [sent] at tokens valid
      dsimp only at tokens valid
      subst tokens
      cases error with
      | some error =>
          refine ⟨texts, none, some error, rfl, by simp, fun turn => ?_⟩
          apply iff_of_false (by simp)
          intro completes
          cases valid.mpr completes.valid
      | none =>
          have ended : ∀ result, run.ending.result? = some result → ∀ turn,
              buildTurnComplete result = .ok turn ↔ Completes run turn := by
            intro result some turn
            constructor
            · intro built
              exact ⟨valid.mp rfl, result, some, built⟩
            · rintro ⟨_, other, same, built⟩
              rw [some, Option.some.injEq] at same
              rwa [same]
          cases ending : run.ending with
          | raised error =>
              refine ⟨texts, none, some error, rfl, by simp, fun turn => ?_⟩
              apply iff_of_false (by simp)
              rintro ⟨_, result, same, _⟩
              rw [ending] at same
              cases same
          | finished result | aborted result =>
              rcases completeWith_eq texts result with ⟨completed, error, stream, last, exactly⟩
              have same : run.ending.result? = some result := by
                rw [ending]
                rfl
              exact ⟨texts, completed, error, stream, last, fun turn =>
                (exactly turn).trans (ended result same turn)⟩

theorem complete_mem_streamOf {run : PipelineRun} {turn : TurnComplete} :
    .complete turn ∈ (streamOf run).events ↔ Completes run turn := by
  rcases streamOf_eq run with ⟨texts, completed, error, stream, _, exactly⟩
  rw [stream, complete_mem_eventsOf, exactly]

end Streams

/-! ## Turns of the servicer -/

section Turns

variable [Runtime] [Rendering] (servicer : AiOrchestrationServicer)
  (environment : Environment) (request : PipelineRequest)

/-- The stream of a request has token events, then one completing event and nothing
else; and the run behind it raises nothing but an abort. -/
def WellTerminated : Prop :=
  (∃ texts turn,
      (servicer.runPipeline environment request).events = eventsOf texts (some turn)) ∧
    ∀ session, protoSessionToDict request.sessionState = .ok session →
      ∀ error, (servicer.runTurn environment session request.userMessage).ending ≠
        .raised error

/-- Without a bound for the queue a run fails before its first token. -/
theorem runTurn_of_lookup {error : PyError} (failed : servicer.tokenQueueMaxsize = .error error)
    (session : Json) (message : String) :
    servicer.runTurn environment session message = { tokens := [], ending := .raised error } := by
  unfold AiOrchestrationServicer.runTurn PipelineExecutor.run
  rw [failed]

/-- Such a servicer completes no turn. -/
theorem not_complete_mem_of_lookup {error : PyError}
    (failed : servicer.tokenQueueMaxsize = .error error) (turn : TurnComplete) :
    .complete turn ∉ (servicer.runPipeline environment request).events := by
  rw [AiOrchestrationServicer.runPipeline]
  split
  · exact List.not_mem_nil
  · split
    · exact List.not_mem_nil
    next session document =>
      rw [complete_mem_streamOf, runTurn_of_lookup servicer environment failed]
      rintro ⟨_, result, same, _⟩
      cases same

/-- With a configuration of the declared classes no turn is well terminated, whatever
the session, the message and the replies. -/
theorem not_wellTerminated (protoAvailable : Bool) (config : OrchestrationConfig)
    (redis : RedisConnection) :
    ¬WellTerminated (.new protoAvailable config redis) environment request := by
  rintro ⟨⟨texts, turn, events⟩, _⟩
  have failed := config.orchestration.tokenQueueMaxsize_eq
  apply not_complete_mem_of_lookup (.new protoAvailable config redis) environment request
    failed turn
  rw [events, complete_mem_eventsOf]

end Turns

/-! ### A turn with the declared configuration -/

section Sample

attribute [local instance] referenceRuntime referenceRendering

/-- An environment where every call succeeds; the model calls the phase complete. -/
def sampleEnvironment : Environment where
  providers :=
    { degraded := fun _ => false
      openrouter := .ok ()
      voyage := .ok () }
  prompt name := .ok (.ofString name)
  reply request := .returns (some (.ofString
    (if request.maxTokens = 32 then "\x7b\"intent\": \"ProblemCapture\"\x7d"
      else if request.maxTokens = 512 then
        "\x7b\"criterion_id\": \"x\", \"description\": \"y\", \"is_terminal\": true\x7d"
      else "[]")))
  stream _ := { tokens := [.ofString "Shall", .ofString " we move on?"], ending := .finished }
  search _ := .returns []
  slowNodes := false
  recursionLimit := 900

/-- The first message on a fresh session. -/
def sampleRequest : PipelineRequest where
  sessionState := StateEngineService.stateToProto (.new 0xA1 1700000000000000000 1 2)
  userMessage := "We send invoices by hand."

/-- Nothing fails around it, but the turn has no completing event. -/
theorem not_wellTerminated_of_sampleRequest :
    ¬∀ protoAvailable config redis environment request,
      WellTerminated (.new protoAvailable config redis) environment request := by
  intro all
  rcases all true {} .absent sampleEnvironment sampleRequest with ⟨⟨texts, turn, events⟩, _⟩
  apply not_complete_mem_of_lookup (.new true {} .absent) sampleEnvironment sampleRequest
    (OrchestrationSection.tokenQueueMaxsize_eq {}) turn
  rw [events, complete_mem_eventsOf]

end Sample

end Chitragupt
