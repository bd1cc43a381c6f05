import Chitragupt.Ingestion.Record

/-!
# Retried uploads

An upload of a content that has no row in its project is registered, and its run indexes
the document.  Where a row is left of an earlier upload, the new document gets none, and
its run can store nothing, whatever has become of the earlier one.
-/

namespace Chitragupt

open Machines (Machine)
open Python (PyError)
open IngestionPipeline (rowsFor marked)

namespace IngestionPipeline

variable [Runtime] (pipeline : IngestionPipeline) (upload : Upload)

/-- No step of the run raises an error of its own. -/
structure Smooth : Prop where
  announced : pipeline.setRedisStatus upload "ingesting" none = .ok ()
  prepared : ∀ error, pipeline.prepare upload ≠ some (.error error)
  inserted : ∀ rows, pipeline.insertFault rows = none
  notified : pipeline.notify upload = .ok ()

omit [Runtime] in
/-- Every chunk of the upload is stored under the document. -/
def StoredUnder (documentId : Uuid) (storage : Storage) : Prop :=
  ∃ pages chunks, pipeline.process upload.content upload.filename = .ok pages ∧
    pipeline.chunker.chunk pages = some chunks ∧
    ∀ chunk ∈ pipeline.scrub chunks, ∃ row ∈ storage.chunks, row.documentId = documentId ∧
      row.content = chunk.text ∧ row.chunkIndex = chunk.chunkIndex ∧ row.isActive = true

end IngestionPipeline

/-- The run at this position is over. -/
def Uploads.Ended (uploads : Uploads) (index : Nat) : Prop :=
  ∃ task result, uploads.tasks[index]? = some task ∧ task.stage = .ended result

namespace IngestServicer

variable [Runtime] (servicer : IngestServicer) (before : Uploads) (request : IngestRequest)
  (pipeline : IngestionPipeline) (upload : Upload)

omit [Runtime] in
/-- The event is no request for the document. -/
def Spares (documentId : Uuid) : UploadEvent → Prop
  | .request request _ _ =>
      ∀ other, servicer.parse request = some other → other.documentId ≠ documentId
  | .move _ => True

omit [Runtime] in
/-- A document with the content of the upload is indexed, with all chunks. -/
def Indexed (storage : Storage) : Prop :=
  ∃ row ∈ storage.documents, row.contentKey = servicer.contentKey upload ∧
    row.status = .indexed ∧ pipeline.StoredUnder upload row.documentId storage

/-- The state in which the request has been answered. -/
def started : Uploads := servicer.machine.next before (.request request pipeline none)

/-- Whatever happens meanwhile, the run of the request can come to its end, and when it
does, the content is indexed. -/
structure RetrySucceeds : Prop where
  ends : ∀ events, (∀ event ∈ events, servicer.Spares upload.documentId event) →
    ∃ moves, (servicer.machine.run (servicer.started before request pipeline)
      (events ++ List.replicate moves (.move before.tasks.length))).Ended before.tasks.length
  succeeds : ∀ events, (∀ event ∈ events, servicer.Spares upload.documentId event) →
    (servicer.machine.run (servicer.started before request pipeline) events).Ended
        before.tasks.length →
      servicer.Indexed pipeline upload
        (servicer.machine.run (servicer.started before request pipeline) events).storage

omit [Runtime] in
/-- What a retry needs: the request is not rejected, no row of the content is left, and the
chunker ends and every chunk gets an embedding. -/
structure Retryable : Prop where
  available : servicer.protoAvailable = true
  nonempty : upload.content ≠ []
  free : servicer.contentKey upload ∉ before.storage.documents.map DocumentRow.contentKey
  covered : ∃ chunks embeddings, pipeline.prepare upload = some (.ok (chunks, embeddings)) ∧
    chunks.length ≤ embeddings.length

/-! ## A run on its own -/

section Alone

variable {servicer} {uploads : Uploads} {task : IngestTask} {index : Nat}

variable (servicer) in
/-- What every move of a run keeps holds after some of them. -/
theorem kept_by_moves {property : Stage → Storage → Prop}
    (kept : ∀ stage storage next after, property stage storage →
      task.pipeline.advance task.upload stage storage = some (next, after) →
        property next after)
    (listed : uploads.tasks[index]? = some task) (holds : property task.stage uploads.storage)
    (moves : Nat) :
    ∃ now, (servicer.machine.run uploads (List.replicate moves (.move index))).tasks[index]? =
        some now ∧ property now.stage
          (servicer.machine.run uploads (List.replicate moves (.move index))).storage := by
  induction moves generalizing uploads task with
  | zero => exact ⟨task, listed, holds⟩
  | succ moves ih =>
      rw [List.replicate_succ, Machine.run_cons]
      cases moved : task.pipeline.advance task.upload task.stage uploads.storage with
      | none =>
          rw [next_move_of_stopped listed moved]
          exact ih kept listed holds
      | some result =>
          rcases result with ⟨stage, storage⟩
          rw [next_move listed moved]
          let now := task.moved stage uploads.storage storage
          have found := getElem?_set_of_some listed now
          exact @ih ⟨storage, _⟩ now kept found (kept _ _ _ _ holds moved)

/-- A position without a run stays without one while only it is moved. -/
theorem unlisted_by_moves (unlisted : uploads.tasks[index]? = none) (moves : Nat) :
    servicer.machine.run uploads (List.replicate moves (.move index)) = uploads := by
  induction moves with
  | zero => rfl
  | succ moves ih => rw [List.replicate_succ, Machine.run_cons, next_move_of_none unlisted, ih]

variable (servicer) in
/-- A run whose chunker ends comes to its end. -/
theorem exists_ended (ending : task.pipeline.prepare task.upload ≠ none)
    (listed : uploads.tasks[index]? = some task) :
    ∃ moves, (servicer.machine.run uploads (List.replicate moves (.move index))).Ended index := by
  -- The number of moves that are left falls with each of them.
  induction bound : task.stage.rank using Nat.strong_induction_on generalizing uploads task with
  | _ rank ih =>
      cases moved : task.pipeline.advance task.upload task.stage uploads.storage with
      | none =>
          rcases IngestionPipeline.advance_eq_none moved with never | ⟨result, ended⟩
          · exact absurd never ending
          · exact ⟨0, task, result, listed, ended⟩
      | some result =>
          rcases result with ⟨stage, storage⟩
          have lower := IngestionPipeline.rank_advance moved
          let now := task.moved stage uploads.storage storage
          have found := getElem?_set_of_some listed now
          rcases @ih stage.rank (bound ▸ lower) ⟨storage, _⟩ now ending found rfl with
            ⟨moves, ended⟩
          refine ⟨moves + 1, ?_⟩
          rw [List.replicate_succ, Machine.run_cons, next_move listed moved]
          exact ended

/-- A run that has made all its moves has done what a run on its own does. -/
theorem run_of_ended {upload : Upload} {pipeline : IngestionPipeline} {moves : Nat}
    (listed : uploads.tasks[index]? = some { upload, pipeline })
    (ended : (servicer.machine.run uploads (List.replicate moves (.move index))).Ended index) :
    ∃ result, pipeline.run upload uploads.storage = pipeline.rest upload (.ended result)
      (servicer.machine.run uploads (List.replicate moves (.move index))).storage := by
  have kept : ∀ stage storage next after,
      pipeline.run upload uploads.storage = pipeline.rest upload stage storage →
        pipeline.advance upload stage storage = some (next, after) →
          pipeline.run upload uploads.storage = pipeline.rest upload next after :=
    fun stage storage next after same moved =>
      same.trans (IngestionPipeline.rest_advance moved)
  rcases servicer.kept_by_moves kept listed rfl moves with ⟨now, found, same⟩
  rcases ended with ⟨task, result, there, finished⟩
  rw [found, Option.some.injEq] at there
  subst there
  exact ⟨result, finished ▸ same⟩

/-- The runs of a document without a row write nothing. -/
theorem storage_of_unregistered {upload : Upload} {pipeline : IngestionPipeline}
    (listed : uploads.tasks[index]? = some { upload, pipeline })
    (unregistered : upload.documentId ∉ uploads.storage.documents.map DocumentRow.documentId)
    (moves : Nat) :
    (servicer.machine.run uploads (List.replicate moves (.move index))).storage =
      uploads.storage := by
  have kept : ∀ stage storage next after, storage = uploads.storage →
      pipeline.advance upload stage storage = some (next, after) →
        after = uploads.storage := by
    intro stage storage next after same moved
    rw [(IngestionPipeline.writes_advance moved).eq_of_unregistered (same ▸ unregistered), same]
  rcases servicer.kept_by_moves kept listed rfl moves with ⟨now, found, same⟩
  exact same

end Alone

/-! ## What a retry needs -/

section Needs

variable {servicer} {before : Uploads} {request : IngestRequest} {pipeline : IngestionPipeline}
  {upload : Upload}

/-- The run of a request starts only when the request is accepted. -/
theorem exists_accepts {moves : Nat}
    (parsed : servicer.parse request = some upload)
    (ended : (servicer.machine.run (servicer.started before request pipeline)
      (List.replicate moves (.move before.tasks.length))).Ended before.tasks.length) :
    ∃ storage, servicer.Accepts before request none upload storage := by
  have step := servicer.machine_step before (.request request pipeline none)
  change servicer.Step _ _ (servicer.started before request pipeline) at step
  generalize servicer.started before request pipeline = after at step ended
  cases step with
  | idle =>
      have unlisted : before.tasks[before.tasks.length]? = none :=
        List.getElem?_eq_none (le_refl _)
      rw [unlisted_by_moves unlisted] at ended
      rcases ended with ⟨task, result, listed, _⟩
      rw [unlisted] at listed
      cases listed
  | accept _ _ _ other storage accepts =>
      have same := accepts.parsed
      rw [parsed, Option.some.injEq] at same
      exact ⟨storage, same ▸ accepts⟩

/-- What the run of a registered document leaves behind when nothing fails. -/
theorem run_of_smooth {storage : Storage} (smooth : pipeline.Smooth upload)
    (registered : upload.documentId ∈ storage.documents.map DocumentRow.documentId)
    {chunks : List TextChunk} {embeddings : List Embedding}
    (prepared : pipeline.prepare upload = some (.ok (chunks, embeddings))) :
    ∃ stored, pipeline.run upload storage = .returns () (marked upload stored .indexed
        (some (chunks.map TextChunk.tokenCount).sum) none) ∧
      stored.documents = storage.documents ∧
      stored.chunks = storage.chunks ++ rowsFor upload storage chunks embeddings := by
  have taken : pipeline.refusal (rowsFor upload storage chunks embeddings) = none := by
    rw [IngestionPipeline.refusal, smooth.inserted, ite_self]
  rcases pipeline.ingest_of_taken upload registered prepared taken with
    ⟨stored, ran, documents, rows⟩
  refine ⟨stored, ?_, documents, rows⟩
  rw [IngestionPipeline.run_eq, smooth.announced]
  dsimp only
  rw [ran]
  dsimp only
  rw [IngestionPipeline.concluded, smooth.notified]

/-- A run that has come to its end had a chunker that ends. -/
theorem prepare_of_run {storage final : Storage} {result : Except PyError Unit}
    (smooth : pipeline.Smooth upload)
    (ran : pipeline.run upload storage = pipeline.rest upload (.ended result) final) :
    ∃ chunks embeddings, pipeline.prepare upload = some (.ok (chunks, embeddings)) := by
  cases prepared : pipeline.prepare upload with
  | none =>
      rw [IngestionPipeline.run_eq, smooth.announced] at ran
      dsimp only at ran
      rw [pipeline.ingest_of_endless upload prepared] at ran
      cases result <;> cases ran
  | some outcome =>
      cases outcome with
      | error error => exact absurd prepared (smooth.prepared error)
      | ok result => exact ⟨result.1, result.2, rfl⟩

omit [Runtime] in
/-- Where all chunks are stored under a new document, each of them had an embedding. -/
theorem covered_of_storedUnder {old final : Storage} {chunks : List TextChunk}
    {embeddings : List Embedding}
    (prepared : pipeline.prepare upload = some (.ok (chunks, embeddings)))
    (unknown : upload.documentId ∉ old.documents.map DocumentRow.documentId)
    {rows : List ChunkRow} (stored : final.chunks = old.chunks ++ rows)
    (numbered : rows.map ChunkRow.chunkIndex =
      (chunks.take embeddings.length).map TextChunk.chunkIndex)
    (complete : pipeline.StoredUnder upload upload.documentId final) :
    chunks.length ≤ embeddings.length := by
  by_contra short
  rw [not_le] at short
  rcases complete with ⟨pages, produced, extracted, chunked, all⟩
  rcases pipeline.chunked_of_prepare upload prepared with ⟨others, again, same, rechunked, rfl⟩
  rw [extracted, Except.ok.injEq] at same
  subst same
  rw [chunked, Option.some.injEq] at rechunked
  subst rechunked
  have indices := chunkIndex_of_prepare prepared
  -- The first chunk without an embedding has no row.
  rcases all _ (List.getElem_mem short) with ⟨row, member, own, _, index, _⟩
  rw [stored, List.mem_append] at member
  rcases member with earlier | added
  · exact unknown (own ▸ old.references row earlier)
  · have listed : row.chunkIndex ∈ rows.map ChunkRow.chunkIndex := List.mem_map_of_mem added
    rw [numbered, List.map_take, indices, List.take_range, List.mem_range] at listed
    have position : ((pipeline.scrub produced)[embeddings.length]).chunkIndex =
        embeddings.length := by
      have there := congrArg (·[embeddings.length]?) indices
      simpa [short] using there
    rw [index, position] at listed
    exact absurd listed (not_lt.mpr (min_le_left _ _))

/-- A retry that succeeds had what it needs. -/
theorem retryable_of_retrySucceeds (parsed : servicer.parse request = some upload)
    (unknown : upload.documentId ∉ before.storage.documents.map DocumentRow.documentId)
    (unindexed : ∀ row ∈ before.storage.documents,
      row.contentKey = servicer.contentKey upload → row.status ≠ .indexed)
    (smooth : pipeline.Smooth upload)
    (succeeds : servicer.RetrySucceeds before request pipeline upload) :
    servicer.Retryable before pipeline upload := by
  rcases succeeds.ends [] (List.forall_mem_nil _) with ⟨moves, ended⟩
  rw [List.nil_append] at ended
  have indexed := succeeds.succeeds (List.replicate moves (.move before.tasks.length))
    (fun event member => List.eq_of_mem_replicate member ▸ trivial) ended
  rcases exists_accepts parsed ended with ⟨storage, accepts⟩
  let after : Uploads := { storage, tasks := before.tasks ++ [{ upload, pipeline }] }
  have answered : servicer.started before request pipeline = after := next_of_accepts accepts
  rw [answered] at ended indexed
  have listed : after.tasks[before.tasks.length]? = some { upload, pipeline } :=
    List.getElem?_concat_length
  rcases Storage.insertDocument_cases accepts.created with
    ⟨known, rfl⟩ | ⟨free, documents, chunks⟩
  · -- The content has a row already, so the new document has none.
    have unregistered : upload.documentId ∉ after.storage.documents.map DocumentRow.documentId :=
      unknown
    rw [storage_of_unregistered listed unregistered] at indexed
    rcases indexed with ⟨row, member, key, status, _⟩
    exact absurd status (unindexed row member key)
  · have registered : upload.documentId ∈ storage.documents.map DocumentRow.documentId := by
      rw [documents, List.map_append]
      exact List.mem_append_right _ List.mem_cons_self
    rcases run_of_ended listed ended with ⟨result, ran⟩
    rcases prepare_of_run smooth ran with ⟨produced, embeddings, prepared⟩
    refine ⟨accepts.available, accepts.nonempty, free, produced, embeddings, prepared, ?_⟩
    rcases run_of_smooth smooth registered prepared with ⟨stored, returned, rowsKept, rows⟩
    rw [returned] at ran
    generalize (servicer.machine.run _ _).storage = final at indexed ran
    have same : final = marked upload stored .indexed
        (some (produced.map TextChunk.tokenCount).sum) none := by
      cases result <;> cases ran
      rfl
    subst same
    rcases indexed with ⟨row, member, key, _, complete⟩
    rcases Storage.exists_of_mem_updateDocument member with ⟨source, there, sameId, sameKey⟩
    rw [rowsKept, documents, List.mem_append, List.mem_singleton] at there
    rcases there with earlier | new
    · exact absurd (List.mem_map.mpr ⟨source, earlier, sameKey.trans key⟩) free
    · have own : row.documentId = upload.documentId := by
        rw [← sameId, new]
        rfl
      have numbered := IngestionPipeline.map_rowsFor upload storage produced embeddings
        ChunkRow.chunkIndex TextChunk.chunkIndex fun _ _ _ => rfl
      rw [chunks] at rows
      rw [own] at complete
      exact covered_of_storedUnder prepared unknown rows numbered complete

end Needs

/-! ## What a retry does when it has that -/

section Meanwhile

omit [Runtime] in
/-- The document has its row. -/
def Registered (upload : Upload) (storage : Storage) : Prop :=
  ∃ row, storage.document upload.documentId = some row ∧
    row.contentKey = servicer.contentKey upload

omit [Runtime] in
/-- The document is indexed. -/
def Marked (upload : Upload) (storage : Storage) : Prop :=
  ∃ row, storage.document upload.documentId = some row ∧
    row.contentKey = servicer.contentKey upload ∧ row.status = .indexed

omit [Runtime] in
/-- What is in the tables for the document when its run is at a stage. -/
def Along (pipeline : IngestionPipeline) (upload : Upload) : Stage → Storage → Prop
  | .announce, storage => servicer.Registered upload storage
  | .ingest, storage => servicer.Registered upload storage
  | .store chunks embeddings, storage => servicer.Registered upload storage ∧
      pipeline.prepare upload = some (.ok (chunks, embeddings))
  | .markIndexed _, storage => servicer.Registered upload storage ∧
      pipeline.StoredUnder upload upload.documentId storage
  | .notify, storage => servicer.Marked upload storage ∧
      pipeline.StoredUnder upload upload.documentId storage
  | .publish, storage => servicer.Marked upload storage ∧
      pipeline.StoredUnder upload upload.documentId storage
  | .ended (.ok _), storage => servicer.Marked upload storage ∧
      pipeline.StoredUnder upload upload.documentId storage
  | .markFailed _, _ => False
  | .report _, _ => False
  | .ended (.error _), _ => False

variable {servicer} {pipeline : IngestionPipeline} {upload : Upload} {storage after : Storage}

omit [Runtime] in
theorem storedUnder_mono {documentId : Uuid}
    (stored : pipeline.StoredUnder upload documentId storage)
    (more : storage.chunks ⊆ after.chunks) : pipeline.StoredUnder upload documentId after := by
  rcases stored with ⟨pages, chunks, extracted, chunked, all⟩
  refine ⟨pages, chunks, extracted, chunked, ?_⟩
  intro chunk member
  rcases all chunk member with ⟨row, listed, agrees⟩
  exact ⟨row, more listed, agrees⟩

omit [Runtime] in
/-- Nothing is lost by what leaves the row and the chunks of the document alone. -/
theorem along_of_spared {stage : Stage} (along : servicer.Along pipeline upload stage storage)
    (kept : ∀ row, storage.document upload.documentId = some row →
      after.document upload.documentId = some row)
    (more : storage.chunks ⊆ after.chunks) : servicer.Along pipeline upload stage after := by
  have registered : servicer.Registered upload storage → servicer.Registered upload after := by
    rintro ⟨row, found, key⟩
    exact ⟨row, kept row found, key⟩
  have marked : servicer.Marked upload storage → servicer.Marked upload after := by
    rintro ⟨row, found, key, status⟩
    exact ⟨row, kept row found, key, status⟩
  cases stage with
  | announce | ingest => exact registered along
  | store chunks embeddings => exact ⟨registered along.1, along.2⟩
  | markIndexed totalTokens => exact ⟨registered along.1, storedUnder_mono along.2 more⟩
  | notify | publish => exact ⟨marked along.1, storedUnder_mono along.2 more⟩
  | markFailed error | report error => exact along
  | ended result =>
      cases result with
      | error error => exact along
      | ok _ => exact ⟨marked along.1, storedUnder_mono along.2 more⟩

omit [Runtime] in
/-- All chunks have a row when each of them has an embedding. -/
theorem storedUnder_of_covered {chunks : List TextChunk} {embeddings : List Embedding}
    (prepared : pipeline.prepare upload = some (.ok (chunks, embeddings)))
    (covered : chunks.length ≤ embeddings.length)
    (rows : after.chunks = storage.chunks ++ rowsFor upload storage chunks embeddings) :
    pipeline.StoredUnder upload upload.documentId after := by
  rcases pipeline.chunked_of_prepare upload prepared with
    ⟨pages, produced, extracted, chunked, rfl⟩
  refine ⟨pages, produced, extracted, chunked, ?_⟩
  intro chunk member
  have views := IngestionPipeline.map_rowsFor upload storage (pipeline.scrub produced) embeddings
    (fun row => (row.documentId, row.content, row.chunkIndex, row.isActive))
    (fun chunk => (upload.documentId, chunk.text, chunk.chunkIndex, true)) fun _ _ _ => rfl
  rw [List.take_of_length_le covered] at views
  have listed := List.mem_map_of_mem
    (f := fun chunk : TextChunk => (upload.documentId, chunk.text, chunk.chunkIndex, true)) member
  rw [← views] at listed
  rcases List.mem_map.mp listed with ⟨row, there, same⟩
  refine ⟨row, ?_, congrArg (·.1) same, congrArg (·.2.1) same, congrArg (·.2.2.1) same,
    congrArg (·.2.2.2) same⟩
  rw [rows]
  exact List.mem_append_right _ there

omit [Runtime] in
theorem mem_of_registered (registered : servicer.Registered upload storage) :
    upload.documentId ∈ storage.documents.map DocumentRow.documentId := by
  rcases registered with ⟨row, found, _⟩
  rcases Storage.mem_of_document found with ⟨listed, own⟩
  exact List.mem_map.mpr ⟨row, listed, own⟩

/-- The run moves along when nothing fails. -/
theorem along_advance {stage next : Stage} (smooth : pipeline.Smooth upload)
    (retryable : ∃ chunks embeddings, pipeline.prepare upload = some (.ok (chunks, embeddings)) ∧
      chunks.length ≤ embeddings.length)
    (along : servicer.Along pipeline upload stage storage)
    (moved : pipeline.advance upload stage storage = some (next, after)) :
    servicer.Along pipeline upload next after := by
  rcases retryable with ⟨produced, found, prepared, covered⟩
  rcases Python.bind_eq_ok.mp smooth.notified with ⟨_, announced, published⟩
  cases stage with
  | announce =>
      rw [IngestionPipeline.advance, smooth.announced] at moved
      cases moved
      exact along
  | ingest =>
      rw [IngestionPipeline.advance, prepared] at moved
      cases moved
      exact ⟨along, prepared⟩
  | store chunks embeddings =>
      rcases along with ⟨registered, same⟩
      rw [prepared, Option.some.injEq, Except.ok.injEq, Prod.mk.injEq] at same
      rcases same with ⟨rfl, rfl⟩
      have taken : pipeline.refusal (rowsFor upload storage produced found) = none := by
        rw [IngestionPipeline.refusal, smooth.inserted, ite_self]
      rcases pipeline.exists_store (mem_of_registered registered) taken with
        ⟨stored, returned, documents, rows⟩
      rw [IngestionPipeline.advance, returned] at moved
      cases moved
      refine ⟨?_, storedUnder_of_covered prepared covered rows⟩
      rcases registered with ⟨row, listed, key⟩
      exact ⟨row, Storage.document_append listed (documents.trans (List.append_nil _).symm), key⟩
  | markIndexed totalTokens =>
      rcases along with ⟨⟨row, listed, key⟩, stored⟩
      cases moved
      exact ⟨⟨_, Storage.document_updateDocument_self listed, key, rfl⟩, stored⟩
  | notify =>
      rw [IngestionPipeline.advance, announced] at moved
      cases moved
      exact along
  | publish =>
      rw [IngestionPipeline.advance, published] at moved
      cases moved
      exact along
  | markFailed error | report error => exact absurd along id
  | ended result => cases moved

omit [Runtime] in
/-- The run at this position is the only one for its document, and moves along. -/
structure Tracked (servicer : IngestServicer) (pipeline : IngestionPipeline) (upload : Upload)
    (index : Nat) (uploads : Uploads) : Prop where
  own : ∃ task, uploads.tasks[index]? = some task ∧ task.upload = upload ∧
    task.pipeline = pipeline ∧ servicer.Along pipeline upload task.stage uploads.storage
  alone : ∀ position other, uploads.tasks[position]? = some other →
    other.upload.documentId = upload.documentId → position = index

variable {index : Nat} {uploads later : Uploads} {event : UploadEvent}

/-- A step that spares the document moves its run along or leaves it alone. -/
theorem tracked_step (smooth : pipeline.Smooth upload)
    (retryable : ∃ chunks embeddings, pipeline.prepare upload = some (.ok (chunks, embeddings)) ∧
      chunks.length ≤ embeddings.length)
    (step : servicer.Step uploads event later)
    (spares : servicer.Spares upload.documentId event)
    (tracked : servicer.Tracked pipeline upload index uploads) :
    servicer.Tracked pipeline upload index later := by
  rcases tracked with ⟨⟨task, listed, rfl, rfl, along⟩, alone⟩
  cases step with
  | idle => exact ⟨⟨task, listed, rfl, rfl, along⟩, alone⟩
  | accept request otherPipeline createFault other storage accepts =>
      have different := spares other accepts.parsed
      have bound := (List.getElem?_eq_some_iff.mp listed).1
      refine ⟨⟨task, ?_, rfl, rfl, ?_⟩, ?_⟩
      · exact (List.getElem?_append_left bound).trans listed
      · apply along_of_spared along
        · intro row found
          rcases Storage.insertDocument_cases accepts.created with ⟨_, rfl⟩ | ⟨_, documents, _⟩
          · exact found
          · exact Storage.document_append found documents
        · change uploads.storage.chunks ⊆ storage.chunks
          rw [chunks_of_created accepts.created]
          exact List.Subset.refl _
      · intro position later found same
        change (uploads.tasks ++ [_])[position]? = some later at found
        rw [List.getElem?_append] at found
        split at found
        · exact alone position later found same
        · rcases List.mem_singleton.mp (List.mem_of_getElem? found) with rfl
          exact absurd same different
  | move position other stage storage there moved =>
      have bound := (List.getElem?_eq_some_iff.mp there).1
      by_cases own : position = index
      · subst own
        rw [listed, Option.some.injEq] at there
        subst there
        refine ⟨⟨task.moved stage uploads.storage storage, ?_, rfl, rfl, ?_⟩, ?_⟩
        · exact getElem?_set_of_some listed _
        · exact along_advance smooth retryable along moved
        · intro place later found same
          by_contra elsewhere
          change (uploads.tasks.set position _)[place]? = some later at found
          rw [List.getElem?_set_ne (Ne.symm elsewhere)] at found
          exact elsewhere (alone place later found same)
      · have different : task.upload.documentId ≠ other.upload.documentId := by
          intro same
          exact own (alone position other there same.symm)
        have writes := IngestionPipeline.writes_advance moved
        refine ⟨⟨task, ?_, rfl, rfl, ?_⟩, ?_⟩
        · exact (List.getElem?_set_ne own).trans listed
        · apply along_of_spared along
          · intro row found
            rw [writes.document_of_ne different]
            exact found
          · rw [writes.chunks_eq]
            exact List.subset_append_left _ _
        · intro place later found same
          change (uploads.tasks.set position _)[place]? = some later at found
          by_cases here : place = position
          · subst here
            rw [List.getElem?_set_self bound, Option.some.injEq] at found
            subst found
            exact absurd same.symm different
          · rw [List.getElem?_set_ne (Ne.symm here)] at found
            exact alone place later found same

/-- An accepted retry is tracked from its start. -/
theorem tracked_started {before : Uploads} {request : IngestRequest}
    (parsed : servicer.parse request = some upload)
    (unknown : upload.documentId ∉ before.storage.documents.map DocumentRow.documentId)
    (unused : ∀ task ∈ before.tasks, task.upload.documentId ≠ upload.documentId)
    (retryable : servicer.Retryable before pipeline upload) :
    servicer.Tracked pipeline upload before.tasks.length
      (servicer.started before request pipeline) := by
  rcases @Storage.insertDocument_new before.storage (servicer.documentRow upload) retryable.free
    unknown with ⟨storage, created, documents⟩
  have accepts : servicer.Accepts before request none upload storage :=
    ⟨retryable.available, parsed, retryable.nonempty, rfl, created⟩
  rw [started, next_of_accepts accepts]
  refine ⟨⟨{ upload, pipeline }, List.getElem?_concat_length, rfl, rfl, ?_⟩, ?_⟩
  · refine ⟨servicer.documentRow upload, ?_, rfl⟩
    have absent : before.storage.documents.find? (·.documentId = upload.documentId) = none :=
      Storage.document_eq_none.mpr unknown
    rw [Storage.document, documents, List.find?_append, absent]
    simp [documentRow]
  · intro position later found same
    change (before.tasks ++ [_])[position]? = some later at found
    rw [List.getElem?_append] at found
    split at found
    · exact absurd same (unused later (List.mem_of_getElem? found))
    · rcases List.getElem?_eq_some_iff.mp found with ⟨bound, _⟩
      rw [List.length_singleton] at bound
      omega

theorem retrySucceeds_of_retryable {before : Uploads} {request : IngestRequest}
    (parsed : servicer.parse request = some upload)
    (unknown : upload.documentId ∉ before.storage.documents.map DocumentRow.documentId)
    (unused : ∀ task ∈ before.tasks, task.upload.documentId ≠ upload.documentId)
    (smooth : pipeline.Smooth upload)
    (retryable : servicer.Retryable before pipeline upload) :
    servicer.RetrySucceeds before request pipeline upload := by
  have tracked : ∀ events, (∀ event ∈ events, servicer.Spares upload.documentId event) →
      servicer.Tracked pipeline upload before.tasks.length
        (servicer.machine.run (servicer.started before request pipeline) events) := by
    intro events spares
    have stable : servicer.machine.Stable
        (fun _ event => servicer.Spares upload.documentId event)
        (servicer.Tracked pipeline upload before.tasks.length) :=
      fun uploads event spares tracked =>
        tracked_step smooth retryable.covered (servicer.machine_step uploads event) spares tracked
    apply stable.run
    · exact servicer.machine.meets_of_forall spares
    · exact tracked_started parsed unknown unused retryable
  constructor
  · intro events spares
    rcases (tracked events spares).own with ⟨task, listed, rfl, rfl, _⟩
    rcases retryable.covered with ⟨chunks, embeddings, prepared, _⟩
    have ending : task.pipeline.prepare task.upload ≠ none := by
      rw [prepared]
      exact Option.some_ne_none _
    rcases servicer.exists_ended ending listed with ⟨moves, ended⟩
    refine ⟨moves, ?_⟩
    rw [Machine.run_append]
    exact ended
  · intro events spares ended
    rcases (tracked events spares).own with ⟨task, listed, _, _, along⟩
    rcases ended with ⟨last, result, there, finished⟩
    rw [listed, Option.some.injEq] at there
    subst there
    rw [finished] at along
    cases result with
    | error error => exact absurd along id
    | ok _ =>
        rcases along with ⟨⟨row, found, key, status⟩, stored⟩
        rcases Storage.mem_of_document found with ⟨member, own⟩
        exact ⟨row, member, key, status, own ▸ stored⟩

end Meanwhile

end IngestServicer

/-! ### A retry after the embedder was down -/

section Sample

attribute [local instance] referenceRuntime

/-- The same content under a fresh identifier, in a project. -/
def retryRequest (projectId : String) : IngestRequest :=
  { sampleIngestRequest with documentId := "000000000000000000000000000000d2", projectId }

def retryUpload (projectId : Uuid) : Upload :=
  { sampleUpload with documentId := 0xD2, projectId }

/-- The content is one chunk. -/
theorem prepare_plainPipeline (projectId : Uuid) :
    plainPipeline.prepare (retryUpload projectId) =
      some (.ok ([{ text := [104, 105], chunkIndex := 0, tokenCount := 1,
                    sectionTitle := none, pageNumber := some 1 }], [[]])) := rfl

theorem smooth_plainPipeline (projectId : Uuid) :
    plainPipeline.Smooth (retryUpload projectId) where
  announced := rfl
  prepared := by
    intro error same
    rw [prepare_plainPipeline] at same
    cases same
  inserted _ := rfl
  notified := rfl

/-- The failed upload has left its row. -/
theorem documents_of_darkPipeline :
    (sampleIngestServicer.machine.run .empty (uploadedBy darkPipeline 0)).storage.documents =
      [{ sampleDocument with
          status := .failed
          errorMessage := some "The service is overloaded." }] := rfl

theorem tasks_of_darkPipeline :
    (sampleIngestServicer.machine.run .empty (uploadedBy darkPipeline 0)).tasks.map
      (fun task => task.upload.documentId) = [0xD1] := rfl

theorem fresh_of_darkPipeline {task : IngestTask} (projectId : Uuid)
    (listed : task ∈ (sampleIngestServicer.machine.run .empty (uploadedBy darkPipeline 0)).tasks) :
    task.upload.documentId ≠ (retryUpload projectId).documentId := by
  have known : task.upload.documentId ∈ [0xD1] :=
    tasks_of_darkPipeline ▸ List.mem_map_of_mem listed
  rw [List.mem_singleton.mp known]
  exact (by decide : (0xD1 : Uuid) ≠ 0xD2)

theorem status_of_darkPipeline {row : DocumentRow} (listed : row ∈
      (sampleIngestServicer.machine.run .empty (uploadedBy darkPipeline 0)).storage.documents) :
    row.status ≠ .indexed := by
  rw [documents_of_darkPipeline, List.mem_singleton] at listed
  rw [listed]
  decide

end Sample

end Chitragupt
