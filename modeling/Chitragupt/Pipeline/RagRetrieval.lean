import Chitragupt.Pipeline.State

/-!
# The retrieval node

The node that looks up document chunks for the message.  A session without indexed
documents needs no lookup.
-/

namespace Chitragupt

open Python (Json)

namespace RagRetrieval

variable (config : OrchestrationConfig) (environment : Environment)

def retrieve (state : PipelineState) : Outcome PipelineState := do
  let session := state.sessionState
  let documents := (getField session "documents_indexed" (.list [])).orElse (.list [])
  if !documents.truthy then
    return { state with retrievedChunks := [] }
  else
    let chunks ← environment.search
      { query := state.userMessage
        workspaceId := getField session "workspace_id" (.ofString "")
        projectId := getField session "project_id" (.ofString "")
        denseWeight := config.rag.denseWeight
        sparseWeight := config.rag.bm25Weight
        topK := config.rag.topK }
    return { state with retrievedChunks := chunks }

/-- The search that the node makes; without indexed documents there is none. -/
def request (state : PipelineState) : Option RetrievalRequest :=
  let session := state.sessionState
  let documents := (getField session "documents_indexed" (.list [])).orElse (.list [])
  if !documents.truthy then none
  else
    some
      { query := state.userMessage
        workspaceId := getField session "workspace_id" (.ofString "")
        projectId := getField session "project_id" (.ofString "")
        denseWeight := config.rag.denseWeight
        sparseWeight := config.rag.bm25Weight
        topK := config.rag.topK }

/-- The database is searched with this request and no other. -/
theorem retrieve_eq (state : PipelineState) :
    retrieve config environment state =
      (request config state).elim (pure { state with retrievedChunks := [] }) fun request => do
        let chunks ← environment.search request
        return { state with retrievedChunks := chunks } := by
  unfold retrieve request
  dsimp only
  split <;> rfl

def call (state : PipelineState) : PipelineState :=
  state.runWithTimeout "RAGRetrievalNode" config.orchestration.pipeline.timeoutMs.ragRetrieval
    (retrieve config environment state) { state with retrievedChunks := [] }

theorem eq_of_retrieve {state after : PipelineState}
    (returned : retrieve config environment state = .returns after) :
    ∃ retrievedChunks, after = { state with retrievedChunks } := by
  unfold retrieve at returned
  dsimp only at returned
  split at returned
  · rw [Outcome.pure_eq_returns] at returned
    exact ⟨_, returned.symm⟩
  · rw [Outcome.bind_eq_returns] at returned
    rcases returned with ⟨chunks, _, same⟩
    rw [Outcome.pure_eq_returns] at same
    exact ⟨chunks, same.symm⟩

/-- The node sets the chunks and changes nothing else but its errors. -/
theorem call_eq (state : PipelineState) :
    ∃ retrievedChunks nodeErrors, call config environment state =
      { state with retrievedChunks, nodeErrors } := by
  apply PipelineState.of_runWithTimeout fun after => ∃ retrievedChunks nodeErrors,
    after = { state with retrievedChunks, nodeErrors }
  · intro after returned
    obtain ⟨chunks, same⟩ := eq_of_retrieve config environment returned
    exact ⟨chunks, _, same⟩
  · intro message
    exact ⟨_, _, rfl⟩

end RagRetrieval

end Chitragupt
