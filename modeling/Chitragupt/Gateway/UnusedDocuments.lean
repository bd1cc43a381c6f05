import Chitragupt.Gateway.Platform
import Chitragupt.Lib.Purge
import Chitragupt.Pipeline.SessionDocument

/-!
# Documents that no turn reads

An upload fills the tables that the retrieval searches, but the retrieval asks the session
first whether there are documents, and no RPC records one there.  So uploads do not show in
any conversation.
-/

namespace Chitragupt

open Python (PyError Json)
open Machines (Machine Store)

/-- A session document that lists no documents. -/
def Undocumented (session : Json) : Prop :=
  ((getField session "documents_indexed" (.list [])).orElse (.list [])).truthy = false

/-- A session that has recorded no documents is shown without any. -/
theorem undocumented_toJson [Runtime] {state : SessionState}
    (unrecorded : state.documentsIndexed = []) : Undocumented state.toJson := by
  have listed : ("documents_indexed", Json.list []) ∈ state.jsonFields := by
    simp [SessionState.jsonFields, unrecorded, listJson]
  rw [Undocumented, state.getField_toJson _ listed]
  rfl

/-! ## A turn without documents -/

section Turn

variable (config : OrchestrationConfig) (environment : Environment)
  (search : RetrievalRequest → Outcome (List ChunkRef)) {state : PipelineState}

/-- The retrieval looks nothing up. -/
theorem RagRetrieval.call_search (undocumented : Undocumented state.sessionState) :
    call config { environment with search } state = call config environment state := by
  have skipped : ∀ around, retrieve config around state =
      .returns { state with retrievedChunks := [] } := by
    intro around
    rw [retrieve, undocumented]
    rfl
  rw [call, call, skipped, skipped]

variable [Runtime] [Rendering]

namespace PipelineExecutor

theorem contribute_search (undocumented : Undocumented state.sessionState) :
    contribute config { environment with search } state =
      contribute config environment state := by
  obtain ⟨entities, updates, errors, extracted⟩ :=
    EntityExtractor.call_eq config environment state
  have same : (EntityExtractor.call config environment state).sessionState =
      state.sessionState := by rw [extracted]
  have lookup := RagRetrieval.call_search config environment search
    (same.symm ▸ undocumented : Undocumented (EntityExtractor.call config environment
      state).sessionState)
  exact congrArg (GapAnalyzer.call config environment) lookup

theorem prepare_search (undocumented : Undocumented state.sessionState) :
    prepare config { environment with search } state = prepare config environment state := by
  obtain ⟨intent, errors, classified⟩ := IntentClassifier.call_eq config environment state
  have same : (IntentClassifier.call config environment state).sessionState =
      state.sessionState := by rw [classified]
  have first : IntentClassifier.call config { environment with search } state =
      IntentClassifier.call config environment state := rfl
  rw [prepare, prepare, first]
  cases routeAfterIntent (IntentClassifier.call config environment state) with
  | revisit => rfl
  | default => exact contribute_search config environment search (same.symm ▸ undocumented)

theorem run_search (maxsize : Except PyError Int) {session : Json}
    (undocumented : Undocumented session) (message : Text) (context : SessionLLMContext) :
    run config { environment with search } maxsize session message context =
      run config environment maxsize session message context := by
  have prepared : prepare config { environment with search }
      (initialState session message context) =
        prepare config environment (initialState session message context) :=
    prepare_search config environment search undocumented
  have invoked : invoke config { environment with search } (initialState session message context) =
      invoke config environment (initialState session message context) := by
    rw [invoke, invoke, prepared]
    rfl
  cases maxsize with
  | error error => rfl
  | ok maxsize =>
      rw [run, run, runGraph, runGraph, invoked]

end PipelineExecutor

/-- The stream of a turn is the same whatever can be found. -/
theorem AiOrchestrationServicer.runPipeline_search (servicer : AiOrchestrationServicer)
    {stored : SessionState} (unrecorded : stored.documentsIndexed = []) (message : String) :
    servicer.runPipeline { environment with search }
        { sessionState := StateEngineService.stateToProto stored, userMessage := message } =
      servicer.runPipeline environment
        { sessionState := StateEngineService.stateToProto stored, userMessage := message } := by
  have undocumented := undocumented_toJson unrecorded
  simp only [runPipeline, runTurn, protoSessionToDict, StateEngineService.stateToProto,
    PipelineExecutor.run_search servicer.config environment search _ undocumented]

end Turn

/-! ## The platform without documents -/

section Platform

variable {κ : Type*} [DecidableEq κ] [Runtime] [Rendering] (deployment : Deployment)

/-- No session has recorded a document, and none had when it was loaded for a turn. -/
structure Platform.Unrecorded (platform : Platform κ) : Prop where
  sessions : platform.engine.sessions.All fun state => state.documentsIndexed = []
  turns : ∀ key turn, platform.turns key = some turn → ∃ state : SessionState,
    state.documentsIndexed = [] ∧ turn.sessionState = StateEngineService.stateToProto state

omit [DecidableEq κ] [Rendering] in
theorem unrecorded_initial (uploads : Uploads) :
    (Platform.initial uploads : Platform κ).Unrecorded where
  sessions := Store.all_empty _
  turns _ _ opened := by cases opened

omit [Rendering] in
/-- No RPC records a document. -/
theorem serviceMachine_stable_unrecorded :
    serviceMachine.Stable (fun _ _ => True) fun service =>
      service.sessions.All fun state => state.documentsIndexed = [] := by
  apply serviceMachine_stable_all
  · intro _ _ _ _
    rfl
  · intro state request unrecorded
    have fields := sessionMachine_fixes_gateFields state request
    exact (congrArg GateManager.GateFields.documentsIndexed fields).trans unrecorded

/-- Nothing that happens records a document. -/
theorem unrecorded_next {platform : Platform κ} (unrecorded : platform.Unrecorded)
    (input : PlatformInput κ) : (deployment.machine.next platform input).Unrecorded where
  sessions := by
    rw [deployment.engine_next]
    cases deployment.rpc platform input with
    | none => exact unrecorded.sessions
    | some request =>
        exact serviceMachine_stable_unrecorded _ request trivial unrecorded.sessions
  turns key turn opened := by
    rcases deployment.turns_next opened with before | ⟨sessionId, body, _, loaded⟩
    · exact unrecorded.turns key turn before
    · rcases Handler.exists_of_openTurn loaded with ⟨id, state, stored, shown⟩
      exact ⟨state, unrecorded.sessions id state stored, shown⟩

/-- The input belongs to a conversation. -/
def PlatformInput.isConversation : PlatformInput κ → Bool
  | .uploadDocument _ _ _ _ | .ingest _ => false
  | _ => true

/-- What the gateway receives of a turn does not depend on the tables. -/
theorem received_uploads {turn : OpenTurn} {state : SessionState}
    (unrecorded : state.documentsIndexed = [])
    (shown : turn.sessionState = StateEngineService.stateToProto state)
    (around : Environment) (call : PipelineCall) (uploads other : Uploads) :
    Handler.received deployment.servicer deployment.rpcError
        (deployment.environment around uploads) call turn =
      Handler.received deployment.servicer deployment.rpcError
        (deployment.environment around other) call turn := by
  have same : ∀ tables, deployment.servicer.runPipeline (deployment.environment around tables)
      { sessionState := turn.sessionState, userMessage := turn.message } =
        deployment.servicer.runPipeline around
          { sessionState := turn.sessionState, userMessage := turn.message } := by
    intro tables
    rw [shown]
    exact deployment.servicer.runPipeline_search around (deployment.search tables) unrecorded
      turn.message
  rw [Handler.received, Handler.received, same, same]

/-- A step of a conversation is the same over any tables, and leaves them alone. -/
theorem step_uploads {platform : Platform κ} (unrecorded : platform.Unrecorded)
    {input : PlatformInput κ} (converses : input.isConversation = true) (uploads : Uploads) :
    deployment.machine.step { platform with uploads } input =
      ({ (deployment.machine.step platform input).1 with uploads },
        (deployment.machine.step platform input).2) := by
  cases input with
  | createSession _ _ | getSession _ _ | requestTransition _ _ | revisitPhase _ _ _ => rfl
  | uploadDocument _ _ _ _ | ingest _ => cases converses
  | openTurn key sessionId body =>
      simp only [Deployment.machine]
      split <;> rfl
  | closeTurn key around call delivery ambient =>
      simp only [Deployment.machine]
      cases opened : platform.turns key with
      | none => rfl
      | some turn =>
          rcases unrecorded.turns key turn opened with ⟨state, none, shown⟩
          simp only [Handler.closeTurn,
            received_uploads deployment none shown around call uploads platform.uploads]

/-- The platforms differ in the tables of the documents only, and none is recorded. -/
structure Platform.Alike (first second : Platform κ) : Prop where
  unrecorded : first.Unrecorded
  same : second = { first with uploads := second.uploads }

/-- Uploads unwind: conversations do not see them. -/
theorem unwinds_alike :
    deployment.machine.Unwinds PlatformInput.isConversation (fun _ => True)
      (Platform.Alike (κ := κ)) where
  answered first second input alike _ converses := by
    rw [alike.same, Machine.reply, Machine.reply,
      step_uploads deployment alike.unrecorded converses second.uploads]
  kept first second input alike _ converses := by
    refine ⟨unrecorded_next deployment alike.unrecorded input, ?_⟩
    rw [alike.same, Machine.next, Machine.next,
      step_uploads deployment alike.unrecorded converses second.uploads]
  unmoved first second input alike _ uploads := by
    refine ⟨unrecorded_next deployment alike.unrecorded input, ?_⟩
    rw [alike.same]
    cases input with
    | uploadDocument _ _ _ _ | ingest _ => rfl
    | createSession _ _ | getSession _ _ | openTurn _ _ _ | closeTurn _ _ _ _ _
    | requestTransition _ _ | revisitPhase _ _ _ => cases uploads

/-- However uploads, their processing in the background, turns and all other requests
interleave, the conversations go as they would if nothing had ever been uploaded: all
answers are the same, and so are the sessions in the end. -/
theorem answers_without_uploads (uploads : Uploads) (inputs : List (PlatformInput κ)) :
    deployment.machine.answers PlatformInput.isConversation (.initial uploads) inputs =
        deployment.machine.answers PlatformInput.isConversation (.initial .empty)
          (inputs.filter PlatformInput.isConversation) ∧
      (deployment.machine.run (.initial uploads) inputs).engine =
        (deployment.machine.run (.initial .empty)
          (inputs.filter PlatformInput.isConversation)).engine := by
  have alike : (Platform.initial uploads : Platform κ).Alike (.initial .empty) :=
    ⟨unrecorded_initial uploads, rfl⟩
  rcases (unwinds_alike deployment).purge alike fun _ _ => trivial with ⟨answers, after⟩
  refine ⟨answers, ?_⟩
  rw [after.same]

end Platform

end Chitragupt
