import Chitragupt.Ingestion.Uploads

/-!
# The record of the uploads

Whatever happens, every document stems from an accepted request, every chunk was stored by
a run, and a run stores rows of its own document only, and only once.
-/

namespace Chitragupt

open Machines (Machine)
open IngestionPipeline (rowsFor)

/-! ## What a run may store -/

/-- A run stores rows of its own document, each with another index, and only once. -/
structure IngestTask.Sound (task : IngestTask) : Prop where
  owned : ∀ chunk ∈ task.stored, chunk.documentId = task.upload.documentId
  indices : (task.stored.map ChunkRow.chunkIndex).Nodup
  pending : 6 ≤ task.stage.rank → task.stored = []
  storing : ∀ chunks embeddings, task.stage = .store chunks embeddings →
    (chunks.map TextChunk.chunkIndex).Nodup

section Sound

variable [Runtime] {task : IngestTask} {stage : Stage} {before after : Storage}

omit [Runtime] in
theorem sound_new (upload : Upload) (pipeline : IngestionPipeline) :
    ({ upload, pipeline } : IngestTask).Sound where
  owned := nofun
  indices := List.nodup_nil
  pending := fun _ => rfl
  storing := nofun

omit [Runtime] in
/-- The chunks of a document are numbered. -/
theorem chunkIndex_of_prepare {pipeline : IngestionPipeline} {upload : Upload}
    {chunks : List TextChunk} {embeddings : List Embedding}
    (prepared : pipeline.prepare upload = some (.ok (chunks, embeddings))) :
    chunks.map TextChunk.chunkIndex = List.range chunks.length := by
  rcases pipeline.chunked_of_prepare upload prepared with ⟨pages, produced, _, chunked, rfl⟩
  have scrubbed : (pipeline.scrub produced).map TextChunk.chunkIndex =
      produced.map TextChunk.chunkIndex := by
    rw [IngestionPipeline.scrub]
    split
    · rw [List.map_map]
      rfl
    · rfl
  have lengths := congrArg List.length scrubbed
  rw [List.length_map, List.length_map] at lengths
  rw [scrubbed, lengths, Chunker.map_chunkIndex_chunk _ chunked]

/-- The rows that a move adds belong to the document of the run and have different
indices. -/
theorem sound_moved (sound : task.Sound)
    (advanced : task.pipeline.advance task.upload task.stage before = some (stage, after)) :
    (task.moved stage before after).Sound := by
  have lower := IngestionPipeline.rank_advance advanced
  have storing : ∀ chunks embeddings, stage = .store chunks embeddings →
      (chunks.map TextChunk.chunkIndex).Nodup := by
    rintro chunks embeddings rfl
    rw [chunkIndex_of_prepare (IngestionPipeline.prepare_of_advance advanced)]
    exact List.nodup_range
  have unchanged : after.chunks = before.chunks → (task.moved stage before after).Sound := by
    intro same
    have stored : (task.moved stage before after).stored = task.stored := by
      rw [IngestTask.moved, same, List.drop_length, List.append_nil]
    refine ⟨?_, ?_, ?_, storing⟩
    · rw [stored]
      exact sound.owned
    · rw [stored]
      exact sound.indices
    · intro early
      rw [stored]
      exact sound.pending (le_trans early (le_of_lt lower))
  rcases task with ⟨upload, pipeline, current, stored⟩
  cases IngestionPipeline.writes_advance advanced with
  | nothing => exact unchanged rfl
  | indexed totalTokens => exact unchanged rfl
  | failed error => exact unchanged rfl
  | chunks chunks embeddings _ registered documents rows =>
      have fresh : stored = [] := sound.pending (by simp [Stage.rank])
      have added : (IngestTask.moved ⟨upload, pipeline, .store chunks embeddings, stored⟩
          (.markIndexed (chunks.map TextChunk.tokenCount).sum) before after).stored =
            rowsFor upload before chunks embeddings := by
        rw [IngestTask.moved, rows, List.drop_left, fresh, List.nil_append]
      refine ⟨?_, ?_, ?_, storing⟩
      · rw [added]
        intro chunk member
        exact IngestionPipeline.documentId_of_mem_rowsFor member
      · rw [added, IngestionPipeline.map_rowsFor upload before chunks embeddings
          ChunkRow.chunkIndex TextChunk.chunkIndex fun _ _ _ => rfl]
        exact (sound.storing chunks embeddings rfl).sublist ((List.take_sublist _ _).map _)
      · intro early
        simp [IngestTask.moved, Stage.rank] at early

end Sound

/-! ## Where the rows come from -/

namespace IngestServicer

variable [Runtime] (servicer : IngestServicer)

omit [Runtime] in
/-- The content of an upload and its project. -/
def contentKey (upload : Upload) : String × Uuid :=
  (servicer.sha256 upload.content, upload.projectId)

omit [Runtime] in
structure Traced (uploads : Uploads) : Prop where
  sound : ∀ task ∈ uploads.tasks, task.Sound
  documents : ∀ row ∈ uploads.storage.documents, ∃ task ∈ uploads.tasks,
    task.upload.documentId = row.documentId ∧
      servicer.contentKey task.upload = row.contentKey
  chunks : ∀ chunk ∈ uploads.storage.chunks, ∃ task ∈ uploads.tasks, chunk ∈ task.stored

variable {servicer} {before after : Uploads} {event : UploadEvent}

omit [Runtime] in
theorem traced_empty : servicer.Traced .empty := by
  constructor
  · intro task member
    cases member
  · intro row member
    cases member
  · intro chunk member
    cases member

omit [Runtime] in
/-- Registering a document stores no chunk. -/
theorem chunks_of_created {upload : Upload} {before after : Storage}
    (created : servicer.createDocument upload before = .ok after) :
    after.chunks = before.chunks := by
  rcases Storage.insertDocument_cases created with ⟨_, rfl⟩ | ⟨_, _, same⟩
  · rfl
  · exact same

omit [Runtime] in
theorem mem_of_created {upload : Upload} {before after : Storage}
    (created : servicer.createDocument upload before = .ok after) {row : DocumentRow}
    (member : row ∈ after.documents) :
    row ∈ before.documents ∨ row = servicer.documentRow upload := by
  rcases Storage.insertDocument_cases created with ⟨_, rfl⟩ | ⟨_, same, _⟩
  · exact .inl member
  · rw [same, List.mem_append, List.mem_singleton] at member
    exact member

omit [Runtime] in
/-- An accepted request adds a run that has stored nothing. -/
theorem traced_accept (traced : servicer.Traced before) {upload : Upload}
    {pipeline : IngestionPipeline} {storage : Storage}
    (created : servicer.createDocument upload before.storage = .ok storage) :
    servicer.Traced { storage, tasks := before.tasks ++ [{ upload, pipeline }] } := by
  constructor
  · intro task member
    rcases List.mem_append.mp member with old | new
    · exact traced.sound task old
    · rw [List.mem_singleton.mp new]
      exact sound_new upload pipeline
  · intro row member
    rcases mem_of_created created member with old | rfl
    · rcases traced.documents row old with ⟨task, listed, same⟩
      exact ⟨task, List.mem_append_left _ listed, same⟩
    · exact ⟨_, List.mem_append_right _ (List.mem_singleton_self _), rfl, rfl⟩
  · intro chunk member
    change chunk ∈ storage.chunks at member
    rw [chunks_of_created created] at member
    rcases traced.chunks chunk member with ⟨task, listed, stored⟩
    exact ⟨task, List.mem_append_left _ listed, stored⟩

omit [Runtime] in
/-- After a move every run is there with what it had stored. -/
theorem exists_of_mem_set {index : Nat} {task : IngestTask} {stage : Stage}
    {storage : Storage} (listed : before.tasks[index]? = some task) {other : IngestTask}
    (member : other ∈ before.tasks) :
    ∃ now ∈ before.tasks.set index (task.moved stage before.storage storage),
      now.upload = other.upload ∧ other.stored ⊆ now.stored := by
  rcases List.mem_iff_getElem?.mp member with ⟨position, found⟩
  by_cases same : position = index
  · subst same
    rw [listed, Option.some.injEq] at found
    subst found
    refine ⟨task.moved stage before.storage storage, ?_, rfl, List.subset_append_left _ _⟩
    exact List.mem_of_getElem? (getElem?_set_of_some listed _)
  · refine ⟨other, ?_, rfl, List.Subset.refl _⟩
    apply List.mem_iff_getElem?.mpr
    exact ⟨position, by rw [List.getElem?_set_ne (Ne.symm same), found]⟩

/-- A move stores rows of its own document only. -/
theorem traced_move (traced : servicer.Traced before) {index : Nat} {task : IngestTask}
    {stage : Stage} {storage : Storage} (listed : before.tasks[index]? = some task)
    (moved : task.pipeline.advance task.upload task.stage before.storage =
      some (stage, storage)) :
    servicer.Traced
      { storage, tasks := before.tasks.set index (task.moved stage before.storage storage) } := by
  have sound := sound_moved (traced.sound task (List.mem_of_getElem? listed)) moved
  have writes := IngestionPipeline.writes_advance moved
  constructor
  · intro other changed
    rcases List.mem_or_eq_of_mem_set changed with old | rfl
    · exact traced.sound other old
    · exact sound
  · intro row changed
    rcases writes.exists_document row changed with ⟨old, listedRow, sameId, sameKey⟩
    rcases traced.documents old listedRow with ⟨other, there, ownId, ownKey⟩
    rcases exists_of_mem_set listed there with ⟨now, here, upload, _⟩
    refine ⟨now, here, ?_, ?_⟩
    · rw [upload, ownId, sameId]
    · rw [upload, ownKey, sameKey]
  · intro chunk changed
    rw [writes.chunks_eq, List.mem_append] at changed
    rcases changed with old | new
    · rcases traced.chunks chunk old with ⟨other, there, stored⟩
      rcases exists_of_mem_set listed there with ⟨now, here, _, more⟩
      exact ⟨now, here, more stored⟩
    · refine ⟨task.moved stage before.storage storage, ?_, List.mem_append_right _ new⟩
      exact List.mem_of_getElem? (getElem?_set_of_some listed _)

theorem traced_step (step : servicer.Step before event after)
    (traced : servicer.Traced before) : servicer.Traced after := by
  cases step with
  | idle => exact traced
  | accept request pipeline createFault upload storage accepts =>
      exact traced_accept traced accepts.created
  | move index task stage storage listed moved => exact traced_move traced listed moved

variable (servicer) in
/-- The record is kept in every run. -/
theorem traced_run (events : List UploadEvent) :
    servicer.Traced (servicer.machine.run .empty events) := by
  have stable : servicer.machine.Stable (fun _ _ => True) servicer.Traced :=
    fun uploads event _ traced => traced_step (servicer.machine_step uploads event) traced
  apply stable.run
  · intro happened member
    trivial
  · exact traced_empty

end IngestServicer

end Chitragupt
