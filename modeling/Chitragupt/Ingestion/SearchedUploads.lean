import Chitragupt.Ingestion.Record
import Chitragupt.Ingestion.SparseScores

/-!
# What a search finds of the uploads

The rows that the runs store are those that the search reads.  However uploads of many
tenants interleave, a search finds chunks of its own tenant's documents as they were
embedded, and all of them when there are few.
-/

namespace Chitragupt

open Machines (Machine)
open Python (PyError)
open IngestionPipeline (record rowsFor)

/-! ## The rows of a run -/

/-- The run stores the chunk with this embedding. -/
def IngestTask.Embeds (task : IngestTask) (chunk : TextChunk) (embedding : Embedding) : Prop :=
  ∃ chunks embeddings,
    task.pipeline.prepare task.upload = some (.ok (chunks, embeddings)) ∧
      (chunk, embedding) ∈ chunks.zip embeddings

/-- The run stores what was prepared for it, and every row that it has stored is that of an
embedded chunk. -/
structure IngestTask.Faithful (task : IngestTask) : Prop where
  storing : ∀ chunks embeddings, task.stage = .store chunks embeddings →
    task.pipeline.prepare task.upload = some (.ok (chunks, embeddings))
  stored : ∀ row ∈ task.stored, ∃ chunk embedding, task.Embeds chunk embedding ∧
    row = record task.upload chunk embedding row.chunkId

theorem exists_of_mem_rowsFor {upload : Upload} {storage : Storage} {chunks : List TextChunk}
    {embeddings : List Embedding} {row : ChunkRow}
    (member : row ∈ rowsFor upload storage chunks embeddings) :
    ∃ chunk embedding, (chunk, embedding) ∈ chunks.zip embeddings ∧
      row = record upload chunk embedding row.chunkId := by
  rw [rowsFor, IngestionPipeline.records, List.mem_iff_getElem] at member
  rcases member with ⟨index, bound, rfl⟩
  rw [List.length_zipWith] at bound
  refine ⟨_, _, List.getElem_mem (lt_of_lt_of_le bound (min_le_left _ _)), ?_⟩
  rw [List.getElem_zipWith]
  rfl

section Faithful

variable [Runtime] {task : IngestTask} {stage : Stage} {before after : Storage}

/-- A move stores rows of embedded chunks only. -/
theorem faithful_moved (faithful : task.Faithful)
    (advanced : task.pipeline.advance task.upload task.stage before = some (stage, after)) :
    (task.moved stage before after).Faithful where
  storing chunks embeddings same := by
    change stage = .store chunks embeddings at same
    subst same
    exact IngestionPipeline.prepare_of_advance advanced
  stored row member := by
    rcases List.mem_append.mp member with old | new
    · exact faithful.stored row old
    · have added : after.chunks ≠ before.chunks := by
        intro same
        rw [same, List.drop_length] at new
        cases new
      rcases task with ⟨upload, pipeline, current, stored⟩
      cases IngestionPipeline.writes_advance advanced with
      | nothing | indexed _ | failed _ => exact absurd rfl added
      | chunks chunks embeddings _ registered documents rows =>
          rw [rows, List.drop_left] at new
          rcases exists_of_mem_rowsFor new with ⟨chunk, embedding, paired, same⟩
          exact ⟨chunk, embedding, ⟨chunks, embeddings, faithful.storing _ _ rfl, paired⟩, same⟩

namespace IngestServicer

variable (servicer : IngestServicer)

/-- All runs of the service are faithful. -/
theorem faithful_run (events : List UploadEvent) :
    ∀ task ∈ (servicer.machine.run .empty events).tasks, task.Faithful := by
  have stable : servicer.machine.Stable (fun _ _ => True)
      fun uploads => ∀ task ∈ uploads.tasks, task.Faithful := by
    intro uploads event _ faithful
    have step := servicer.machine_step uploads event
    generalize servicer.machine.next uploads event = after at step ⊢
    cases step with
    | idle => exact faithful
    | accept request pipeline createFault upload storage accepts =>
        intro task member
        rcases List.mem_append.mp member with old | new
        · exact faithful task old
        · rw [List.mem_singleton.mp new]
          exact ⟨by simp, by simp⟩
    | move index task stage storage listed moved =>
        intro other member
        rcases List.mem_or_eq_of_mem_set member with old | rfl
        · exact faithful other old
        · exact faithful_moved (faithful task (List.mem_of_getElem? listed)) moved
  apply stable.run
  · intro _ _
    trivial
  · intro task member
    cases member

end IngestServicer

end Faithful

/-! ## The table of the search -/

/-- A stored row as the search reads it. -/
def ChunkRow.searched (row : ChunkRow) (keys : (row.sparseVector.map Prod.fst).Nodup) :
    SearchChunk ℚ where
  chunkId := row.chunkId
  documentId := row.documentId
  workspaceId := row.workspaceId
  projectId := row.projectId
  content := row.content
  embedding := row.embedding
  sparseVector := some ⟨row.sparseVector, keys⟩
  sectionTitle := row.sectionTitle
  pageNumber := row.pageNumber
  isActive := row.isActive

theorem ChunkRow.searched_congr {row other : ChunkRow} (same : row = other)
    (keys : (row.sparseVector.map Prod.fst).Nodup)
    (keys' : (other.sparseVector.map Prod.fst).Nodup) :
    row.searched keys = other.searched keys' := by
  subst same
  rfl

namespace Storage

/-- The sparse vectors are JSON objects. -/
def Searchable (storage : Storage) : Prop :=
  ∀ row ∈ storage.chunks, (row.sparseVector.map Prod.fst).Nodup

def chunkTable (storage : Storage) (searchable : storage.Searchable) : ChunkTable ℚ where
  rows := storage.chunks.attach.map fun row => row.1.searched (searchable row.1 row.2)
  chunkIds := by
    have ids : (storage.chunks.attach.map fun row => row.1.chunkId) =
        storage.chunks.map ChunkRow.chunkId := List.attach_map_val (f := ChunkRow.chunkId)
    rw [List.map_map]
    exact ids ▸ storage.chunkIds

/-- The rows of the tenant of a search. -/
def tenantRows (storage : Storage) (query : SearchQuery ℚ) : List ChunkRow :=
  storage.chunks.filter fun row =>
    row.workspaceId = query.workspaceId && row.projectId = query.projectId

variable {storage : Storage}

theorem mem_chunkTable {searchable : storage.Searchable} {chunk : SearchChunk ℚ}
    (member : chunk ∈ (storage.chunkTable searchable).rows) :
    ∃ row ∈ storage.chunks, ∃ keys, chunk = row.searched keys := by
  rcases List.mem_map.mp member with ⟨row, _, rfl⟩
  exact ⟨row.1, row.2, _, rfl⟩

/-- The search looks at the rows of its tenant. -/
theorem chunkIds_scope (searchable : storage.Searchable) (query : SearchQuery ℚ) :
    (HybridSearch.scope query (storage.chunkTable searchable).rows).map SearchChunk.chunkId =
      (storage.tenantRows query).map ChunkRow.chunkId := by
  have rows : storage.chunks = storage.chunks.attach.map Subtype.val :=
    (List.attach_map_subtype_val _).symm
  have tenant : storage.tenantRows query = (storage.chunks.attach.filter fun row =>
      row.1.workspaceId = query.workspaceId && row.1.projectId = query.projectId).map
        Subtype.val := by
    rw [tenantRows]
    conv_lhs => rw [rows]
    exact List.filter_map
  rw [tenant, HybridSearch.scope, chunkTable, List.filter_map, List.map_map, List.map_map]
  rfl

end Storage

/-! ## Few chunks -/

namespace HybridSearch

variable {server : SearchServer ℚ} {query : SearchQuery ℚ} {table : ChunkTable ℚ}

/-- A search that can take all live chunks of its tenant finds all of them. -/
theorem search_of_few (nonneg : 0 ≤ query.topK)
    (live : ∀ chunk ∈ scope query table.rows,
      chunk.isActive = true ∧ chunk.unexpired server.now = true)
    (few : (scope query table.rows).length ≤ 50)
    (asked : ((scope query table.rows).length : Int) ≤ query.topK) :
    ∃ results, search server query table = .ok results ∧
      results.Perm ((scope query table.rows).map (result server query)) := by
  have candidates : (candidateIds server query table.rows).Perm
      ((scope query table.rows).map SearchChunk.chunkId) := by
    have all : (table.rows.filter fun chunk =>
        chunk.inScope query && (chunk.isActive && chunk.unexpired server.now)) =
          scope query table.rows := by
      apply List.filter_congr
      intro chunk member
      cases within : chunk.inScope query with
      | false => rfl
      | true =>
          have alive := live chunk (List.mem_filter.mpr ⟨member, within⟩)
          rw [alive.1, alive.2]
          rfl
    rw [candidateIds, all]
    exact (Ranking.first_perm _ _ _ few).map _
  have hits : scored server query table.rows (candidateIds server query table.rows) =
      (scope query table.rows).map (result server query) := by
    rw [scored, scope]
    congr 1
    apply List.filter_congr
    intro chunk member
    cases within : chunk.inScope query with
    | false => rfl
    | true =>
        have here : chunk ∈ scope query table.rows := List.mem_filter.mpr ⟨member, within⟩
        have candidate : chunk.chunkId ∈ candidateIds server query table.rows :=
          candidates.mem_iff.mpr (List.mem_map_of_mem here)
        rw [List.contains_iff_mem.mpr candidate, (live chunk here).1]
        rfl
  refine ⟨_, search_of_nonneg nonneg table, ?_⟩
  rw [hits]
  apply Ranking.first_perm
  rw [List.length_map]
  omega

end HybridSearch

/-! ## Uploads and searches -/

namespace IngestServicer

variable [Runtime] (servicer : IngestServicer) (events : List UploadEvent)

/-- Every stored row is that of an embedded chunk of some run. -/
theorem exists_embedded {row : ChunkRow}
    (member : row ∈ (servicer.machine.run .empty events).storage.chunks) :
    ∃ task ∈ (servicer.machine.run .empty events).tasks, ∃ chunk embedding,
      task.Embeds chunk embedding ∧ row = record task.upload chunk embedding row.chunkId := by
  rcases (servicer.traced_run events).chunks row member with ⟨task, listed, stored⟩
  exact ⟨task, listed, (servicer.faithful_run events task listed).stored row stored⟩

theorem searchable_run : (servicer.machine.run .empty events).storage.Searchable := by
  intro row member
  rcases servicer.exists_embedded events member with ⟨task, _, chunk, embedding, _, same⟩
  rw [same]
  exact (relativeFrequencies_bm25Sparse _).keys

/-- However the uploads of all tenants and their runs have interleaved: what a search finds
are chunks of documents uploaded for its own workspace and project, with the text, the
vector and the sparse vector that they were embedded and stored with; and a search that can
take all rows of its tenant finds every one of them, once. -/
theorem search_uploads (server : SearchServer ℚ) {query : SearchQuery ℚ}
    (nonneg : 0 ≤ query.topK) :
    ∃ results, HybridSearch.search server query
        ((servicer.machine.run .empty events).storage.chunkTable
          (servicer.searchable_run events)) = .ok results ∧
      (∀ found ∈ results, ∃ task ∈ (servicer.machine.run .empty events).tasks,
        task.upload.workspaceId = query.workspaceId ∧
        task.upload.projectId = query.projectId ∧
        ∃ chunk embedding, task.Embeds chunk embedding ∧
          found = HybridSearch.result server query
            (HybridSearch.storedChunk task.upload chunk embedding found.chunkId)) ∧
      (((servicer.machine.run .empty events).storage.tenantRows query).length ≤ 50 →
        (((servicer.machine.run .empty events).storage.tenantRows query).length : Int) ≤
            query.topK →
          (results.map SearchResult.chunkId).Perm
            (((servicer.machine.run .empty events).storage.tenantRows query).map
              ChunkRow.chunkId)) := by
  rcases HybridSearch.search_tenant server nonneg
      ((servicer.machine.run .empty events).storage.chunkTable (servicer.searchable_run events))
    with ⟨results, searched, hits, _⟩
  refine ⟨results, searched, ?_, ?_⟩
  · intro found member
    rcases hits found member with ⟨chunk, listed, rfl, workspace, project, _⟩
    rcases Storage.mem_chunkTable listed with ⟨row, stored, keys, rfl⟩
    rcases servicer.exists_embedded events stored with
      ⟨task, here, text, embedding, embeds, same⟩
    have owner : row.workspaceId = task.upload.workspaceId := congrArg ChunkRow.workspaceId same
    have within : row.projectId = task.upload.projectId := congrArg ChunkRow.projectId same
    refine ⟨task, here, owner.symm.trans workspace, within.symm.trans project, text, embedding,
      embeds, ?_⟩
    exact congrArg (HybridSearch.result server query) (ChunkRow.searched_congr same keys _)
  · intro few asked
    have ids := Storage.chunkIds_scope (servicer.searchable_run events) query
    have length := congrArg List.length ids
    rw [List.length_map, List.length_map] at length
    have live : ∀ chunk ∈ HybridSearch.scope query ((servicer.machine.run .empty
        events).storage.chunkTable (servicer.searchable_run events)).rows,
        chunk.isActive = true ∧ chunk.unexpired server.now = true := by
      intro chunk member
      rcases Storage.mem_chunkTable (List.mem_of_mem_filter member) with
        ⟨row, stored, keys, rfl⟩
      rcases servicer.exists_embedded events stored with ⟨task, _, text, embedding, _, same⟩
      exact ⟨congrArg ChunkRow.isActive same, rfl⟩
    rcases HybridSearch.search_of_few nonneg live (length ▸ few) (length ▸ asked) with
      ⟨others, again, all⟩
    rcases Except.ok.inj (searched.symm.trans again) with rfl
    have found := all.map SearchResult.chunkId
    rw [List.map_map] at found
    exact ids ▸ found

end IngestServicer

/-! ### One document -/

section Sample

attribute [local instance] referenceRuntime

/-- A search of the tenant that uploads the document. -/
def sampleTenantSearch : SearchQuery ℚ :=
  { HybridSearch.sampleSearch with workspaceId := 1, projectId := 2 }

/-- The rows of one document are found. -/
theorem search_uploads_sample : ∃ results,
    HybridSearch.search HybridSearch.sampleServer sampleTenantSearch
      ((sampleIngestServicer.machine.run .empty (uploadedBy plainPipeline 0)).storage.chunkTable
        (sampleIngestServicer.searchable_run _)) = .ok results ∧
      results.length = 1 := by
  rcases sampleIngestServicer.search_uploads (uploadedBy plainPipeline 0)
    HybridSearch.sampleServer (show 0 ≤ sampleTenantSearch.topK by decide) with
    ⟨results, searched, _, found⟩
  have rows : ((sampleIngestServicer.machine.run .empty
      (uploadedBy plainPipeline 0)).storage.tenantRows sampleTenantSearch).length = 1 := by
    decide +kernel
  have all := found (by omega) (by rw [rows]; decide)
  refine ⟨results, searched, ?_⟩
  have length := all.length_eq
  rw [List.length_map, List.length_map, rows] at length
  exact length

end Sample

end Chitragupt
