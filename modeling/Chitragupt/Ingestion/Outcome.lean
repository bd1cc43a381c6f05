import Chitragupt.Ingestion.Pipeline
import Chitragupt.StateMachine.Wire

/-!
# The outcome of an ingestion run

A run that ends without an error leaves its document indexed with all its chunks, or
failed without any, as long as no Redis command fails at the wrong moment: before the
exceptions are caught, after the chunks are stored, or while a failure is reported.
-/

namespace Chitragupt

open Effects (Effect Attempt)
open Python (PyError)

namespace IngestionPipeline

variable [Runtime] (pipeline : IngestionPipeline) (upload : Upload)

/-! ## The parts of a run -/

/-- What is to be stored: nothing yet where the chunker never ends, an error, or the chunks
and their embeddings. -/
def prepare : Option (Except PyError (List TextChunk × List Embedding)) :=
  match pipeline.process upload.content upload.filename with
  | .error error => some (.error error)
  | .ok pages =>
      match pipeline.chunker.chunk pages with
      | none => none
      | some [] => some (.ok ([], []))
      | some chunks =>
          some ((pipeline.embedTexts ((pipeline.scrub chunks).map TextChunk.text)).map
            (pipeline.scrub chunks, ·))

/-- The announcement that follows the status `indexed`. -/
def notify : Except PyError Unit := do
  pipeline.setRedisStatus upload "indexed" none
  pipeline.publishIndexed upload

/-- The rows that a run is about to store. -/
def rowsFor (storage : Storage) (chunks : List TextChunk) (embeddings : List Embedding) :
    List ChunkRow :=
  records upload chunks embeddings
    (storage.drawChunkIds (min chunks.length embeddings.length))

/-- What the server says to the rows, when there are any. -/
def refusal (rows : List ChunkRow) : Option PyError :=
  if rows = [] then none else pipeline.insertFault rows

/-- The storage with the status of the document of the upload. -/
def marked (storage : Storage) (status : DocumentStatus) (tokenCount : Option Nat)
    (errorMessage : Option String) : Storage :=
  storage.updateDocument upload.documentId (·.withStatus status tokenCount errorMessage)
    (DocumentRow.documentId_withStatus status tokenCount errorMessage)
    (DocumentRow.contentKey_withStatus status tokenCount errorMessage)

/-- The end of a run whose steps have failed. -/
def abandoned (storage : Storage) (error : PyError) : Attempt PyError Storage Unit :=
  let after := marked upload storage .failed none (some error.message)
  match pipeline.setRedisStatus upload "failed" (some error.message) with
  | .ok _ => .returns () after
  | .error error => .raises error after

/-- The end of a run that has stored its chunks. -/
def concluded (storage : Storage) (totalTokens : Nat) : Attempt PyError Storage Unit :=
  let after := marked upload storage .indexed (some totalTokens) none
  match pipeline.notify upload with
  | .ok _ => .returns () after
  | .error error => pipeline.abandoned upload after error

omit [Runtime] in
theorem ingest_eq (storage : Storage) :
    pipeline.ingest upload storage =
      match pipeline.prepare upload with
      | none => .endless
      | some (.error error) => .raises error storage
      | some (.ok (chunks, embeddings)) =>
          match pipeline.store upload chunks embeddings storage with
          | .returns _ after => .returns (chunks.map TextChunk.tokenCount).sum after
          | .raises error after => .raises error after
          | .endless => .endless := by
  rw [ingest, prepare]
  simp only [Effect.monadLift_eq, Effect.bind_apply]
  cases pipeline.process upload.content upload.filename with
  | error error => rfl
  | ok pages =>
      dsimp only [Effect.ofExcept]
      cases pipeline.chunker.chunk pages with
      | none => rfl
      | some chunks =>
          cases chunks with
          | nil => rfl
          | cons chunk chunks =>
              dsimp only
              rw [Effect.bind_apply]
              cases pipeline.embedTexts
                  ((pipeline.scrub (chunk :: chunks)).map TextChunk.text) with
              | error error => rfl
              | ok embeddings =>
                  dsimp only [Except.map, Effect.monadLift_eq, Effect.ofExcept]
                  rw [Effect.bind_apply]
                  cases pipeline.store upload (pipeline.scrub (chunk :: chunks)) embeddings
                    storage <;> rfl

theorem handler_eq (storage : Storage) (error : PyError) :
    ((do
        updateDocumentStatus upload.documentId .failed none (some error.message)
        pipeline.setRedisStatus upload "failed" (some error.message)) :
      Effect PyError Storage Unit) storage = pipeline.abandoned upload storage error := by
  rw [Effect.bind_apply, abandoned]
  cases pipeline.setRedisStatus upload "failed" (some error.message) <;> rfl

/-- A run, step by step. -/
theorem run_eq (storage : Storage) :
    pipeline.run upload storage =
      match pipeline.setRedisStatus upload "ingesting" none with
      | .error error => .raises error storage
      | .ok _ =>
          match pipeline.ingest upload storage with
          | .returns totalTokens after => pipeline.concluded upload after totalTokens
          | .raises error after => pipeline.abandoned upload after error
          | .endless => .endless := by
  rw [run]
  simp only [Effect.monadLift_eq, Effect.bind_apply]
  cases pipeline.setRedisStatus upload "ingesting" none with
  | error error => rfl
  | ok _ =>
      dsimp only [Effect.ofExcept]
      rw [Effect.handle, Effect.bind_apply]
      cases pipeline.ingest upload storage with
      | endless => rfl
      | raises error after => exact pipeline.handler_eq upload after error
      | returns totalTokens after =>
          dsimp only
          rw [concluded, notify, Effect.bind_apply]
          dsimp only [updateDocumentStatus, Effect.modify_apply, Effect.monadLift_eq]
          rw [Effect.bind_apply]
          cases pipeline.setRedisStatus upload "indexed" none with
          | error error => exact pipeline.handler_eq upload _ error
          | ok _ =>
              dsimp only [Effect.ofExcept]
              cases pipeline.publishIndexed upload with
              | error error => exact pipeline.handler_eq upload _ error
              | ok _ => rfl

/-! ## What a run stores -/

section Rows

variable {upload} {storage : Storage} {chunks : List TextChunk} {embeddings : List Embedding}

variable (upload storage chunks embeddings) in
omit [Runtime] in
theorem map_chunkId_rowsFor :
    (rowsFor upload storage chunks embeddings).map ChunkRow.chunkId =
      storage.drawChunkIds (min chunks.length embeddings.length) := by
  rw [rowsFor, records, List.map_zipWith]
  apply List.ext_getElem
  · simp [Storage.length_drawChunkIds]
  · intro index _ _
    simp [record]

omit [Runtime] in
theorem documentId_of_mem_rowsFor {row : ChunkRow}
    (member : row ∈ rowsFor upload storage chunks embeddings) :
    row.documentId = upload.documentId := by
  rw [rowsFor, records, List.mem_iff_getElem] at member
  rcases member with ⟨index, _, rfl⟩
  simp [record]

omit [Runtime] in
theorem rowsFor_eq_nil :
    rowsFor upload storage chunks embeddings = [] ↔ chunks = [] ∨ embeddings = [] := by
  rw [← List.length_eq_zero_iff, rowsFor, records, List.length_zipWith,
    Storage.length_drawChunkIds, List.length_zip, min_self, ← List.length_eq_zero_iff,
    ← List.length_eq_zero_iff]
  omega

variable (upload storage chunks embeddings) in
omit [Runtime] in
/-- The chunks with an embedding have a row. -/
theorem map_rowsFor {α : Type} (view : ChunkRow → α) (chunkView : TextChunk → α)
    (same : ∀ chunk embedding chunkId, view (record upload chunk embedding chunkId) =
      chunkView chunk) :
    (rowsFor upload storage chunks embeddings).map view =
      (chunks.take embeddings.length).map chunkView := by
  rw [rowsFor, records, List.map_zipWith]
  apply List.ext_getElem
  · simp [Storage.length_drawChunkIds, min_comm]
  · intro index _ _
    simp [same]

omit [Runtime] in
theorem store_of_refusal {error : PyError}
    (refused : pipeline.refusal (rowsFor upload storage chunks embeddings) = some error) :
    pipeline.store upload chunks embeddings storage = .raises error storage := by
  rw [refusal] at refused
  split at refused
  · cases refused
  next some_rows =>
    rw [store, Effect.bind_apply]
    dsimp only [Effect.get_apply]
    rw [← rowsFor, insertChunks, if_neg some_rows, refused]
    rfl

omit [Runtime] in
/-- The rows of a registered document are stored when the server takes them. -/
theorem exists_store (registered : upload.documentId ∈
      storage.documents.map DocumentRow.documentId)
    (taken : pipeline.refusal (rowsFor upload storage chunks embeddings) = none) :
    ∃ after, pipeline.store upload chunks embeddings storage = .returns () after ∧
      after.documents = storage.documents ∧
      after.chunks = storage.chunks ++ rowsFor upload storage chunks embeddings := by
  rw [store, Effect.bind_apply]
  dsimp only [Effect.get_apply]
  rw [← rowsFor, insertChunks]
  rw [refusal] at taken
  split
  next none_left => exact ⟨storage, rfl, rfl, by rw [none_left, List.append_nil]⟩
  next some_rows =>
    rw [if_neg some_rows] at taken
    rw [taken]
    have drawn := map_chunkId_rowsFor upload storage chunks embeddings
    have inserted := Storage.insertChunks_eq_ok (rowsFor upload storage chunks embeddings)
      (by rw [drawn]; exact Storage.nodup_drawChunkIds _)
      (by
        intro row member
        apply Storage.not_mem_of_mem_drawChunkIds (min chunks.length embeddings.length)
        rw [← drawn]
        exact List.mem_map_of_mem member)
      (by
        intro row member
        rw [documentId_of_mem_rowsFor member]
        exact registered)
    rcases inserted with ⟨after, inserted, documents, stored⟩
    exact ⟨after, Effect.update_of_ok inserted, documents, stored⟩

omit [Runtime] in
/-- New rows of an unknown document are refused. -/
theorem store_of_unregistered (unregistered : upload.documentId ∉
      storage.documents.map DocumentRow.documentId)
    (some_rows : rowsFor upload storage chunks embeddings ≠ []) :
    ∃ error, pipeline.store upload chunks embeddings storage = .raises error storage := by
  cases refused : pipeline.refusal (rowsFor upload storage chunks embeddings) with
  | some error => exact ⟨error, pipeline.store_of_refusal refused⟩
  | none =>
      have drawn := map_chunkId_rowsFor upload storage chunks embeddings
      have members : ∀ row ∈ rowsFor upload storage chunks embeddings,
          row.chunkId ∉ storage.chunks.map ChunkRow.chunkId ∧
            row.documentId = upload.documentId := by
        intro row member
        constructor
        · apply Storage.not_mem_of_mem_drawChunkIds (min chunks.length embeddings.length)
          rw [← drawn]
          exact List.mem_map_of_mem member
        · exact documentId_of_mem_rowsFor member
      rw [refusal, if_neg some_rows] at refused
      rw [store, Effect.bind_apply]
      dsimp only [Effect.get_apply]
      rw [← rowsFor, insertChunks, if_neg some_rows, refused]
      cases rows : rowsFor upload storage chunks embeddings with
      | nil => exact absurd rows some_rows
      | cons row others =>
          rw [rows] at members
          rcases members row List.mem_cons_self with ⟨new, same⟩
          exact ⟨_, Effect.update_of_error
            (Storage.insertChunks_eq_error new (same.symm ▸ unregistered))⟩

omit [Runtime] in
/-- Rows are stored for a registered document, or nothing is written. -/
theorem store_cases :
    (∃ after, pipeline.store upload chunks embeddings storage = .returns () after ∧
      after.documents = storage.documents ∧
      after.chunks = storage.chunks ++ rowsFor upload storage chunks embeddings ∧
      (rowsFor upload storage chunks embeddings ≠ [] →
        upload.documentId ∈ storage.documents.map DocumentRow.documentId)) ∨
    ∃ error, pipeline.store upload chunks embeddings storage = .raises error storage := by
  by_cases registered : upload.documentId ∈ storage.documents.map DocumentRow.documentId
  · cases taken : pipeline.refusal (rowsFor upload storage chunks embeddings) with
    | some error => exact .inr ⟨error, pipeline.store_of_refusal taken⟩
    | none =>
        rcases pipeline.exists_store registered taken with ⟨after, stored, documents, rows⟩
        exact .inl ⟨after, stored, documents, rows, fun _ => registered⟩
  · by_cases none_left : rowsFor upload storage chunks embeddings = []
    · refine .inl ⟨storage, ?_, rfl, by rw [none_left, List.append_nil], absurd none_left⟩
      rw [store, Effect.bind_apply]
      dsimp only [Effect.get_apply]
      rw [← rowsFor, insertChunks, if_pos none_left]
      rfl
    · exact .inr (pipeline.store_of_unregistered registered none_left)

end Rows

section Ends

variable {storage after : Storage} {error : PyError}

omit [Runtime] in
theorem documentIds_marked (status : DocumentStatus) (tokenCount : Option Nat)
    (errorMessage : Option String) :
    (marked upload storage status tokenCount errorMessage).documents.map
      DocumentRow.documentId = storage.documents.map DocumentRow.documentId :=
  Storage.documentIds_updateDocument

omit [Runtime] in
theorem status_marked (status : DocumentStatus) (tokenCount : Option Nat)
    (errorMessage : Option String) :
    (marked upload storage status tokenCount errorMessage).status upload.documentId =
      if upload.documentId ∈ storage.documents.map DocumentRow.documentId then some status
      else none :=
  Storage.status_updateDocument fun _ => rfl

/-- A failure can be reported to Redis. -/
def Reportable (error : PyError) : Prop :=
  pipeline.setRedisStatus upload "failed" (some error.message) = .ok ()

theorem abandoned_eq_returns :
    pipeline.abandoned upload storage error = .returns () after ↔
      pipeline.Reportable upload error ∧
        after = marked upload storage .failed none (some error.message) := by
  rw [abandoned, Reportable]
  cases pipeline.setRedisStatus upload "failed" (some error.message) with
  | error error => simp
  | ok _ => simp [eq_comm]

theorem abandoned_of_reportable {error : PyError}
    (reportable : pipeline.Reportable upload error) (storage : Storage) :
    pipeline.abandoned upload storage error =
      .returns () (marked upload storage .failed none (some error.message)) :=
  (pipeline.abandoned_eq_returns upload).mpr ⟨reportable, rfl⟩

theorem concluded_eq_returns {totalTokens : Nat} :
    pipeline.concluded upload storage totalTokens = .returns () after ↔
      (pipeline.notify upload = .ok () ∧
          after = marked upload storage .indexed (some totalTokens) none) ∨
        ∃ error, pipeline.notify upload = .error error ∧
          pipeline.abandoned upload (marked upload storage .indexed (some totalTokens) none)
            error = .returns () after := by
  rw [concluded]
  cases pipeline.notify upload with
  | error error => simp
  | ok _ => simp [eq_comm]

omit [Runtime] in
theorem chunked_of_prepare {chunks : List TextChunk} {embeddings : List Embedding}
    (prepared : pipeline.prepare upload = some (.ok (chunks, embeddings))) :
    ∃ pages produced, pipeline.process upload.content upload.filename = .ok pages ∧
      pipeline.chunker.chunk pages = some produced ∧ chunks = pipeline.scrub produced := by
  rw [prepare] at prepared
  cases extracted : pipeline.process upload.content upload.filename with
  | error error =>
      rw [extracted] at prepared
      cases prepared
  | ok pages =>
      rw [extracted] at prepared
      dsimp only at prepared
      refine ⟨pages, ?_⟩
      cases chunked : pipeline.chunker.chunk pages with
      | none =>
          rw [chunked] at prepared
          cases prepared
      | some produced =>
          rw [chunked] at prepared
          refine ⟨produced, rfl, rfl, ?_⟩
          cases produced with
          | nil =>
              have same := Except.ok.inj (Option.some.inj prepared)
              rw [← (Prod.mk.inj same).1, scrub]
              simp
          | cons chunk rest =>
              have mapped := Option.some.inj prepared
              cases embedded : pipeline.embedTexts
                  ((pipeline.scrub (chunk :: rest)).map TextChunk.text) with
              | error error =>
                  rw [embedded] at mapped
                  cases mapped
              | ok found =>
                  rw [embedded] at mapped
                  exact (Prod.mk.inj (Except.ok.inj mapped)).1.symm

end Ends

/-! ## Consistent outcomes -/

/-- Every chunk of the document has been stored. -/
def StoresAll (before after : Storage) : Prop :=
  ∃ pages chunks added, pipeline.process upload.content upload.filename = .ok pages ∧
    pipeline.chunker.chunk pages = some chunks ∧ after.chunks = before.chunks ++ added ∧
    added.map (fun row => (row.documentId, row.content, row.chunkIndex)) =
      (pipeline.scrub chunks).map fun chunk => (upload.documentId, chunk.text, chunk.chunkIndex)

/-- The run returns, and leaves the document indexed with every chunk stored or failed
with none. -/
def EndsConsistently (before : Storage) : Prop :=
  ∃ after, pipeline.run upload before = .returns () after ∧
    ((after.status upload.documentId = some .indexed ∧
        pipeline.StoresAll upload before after) ∨
      (after.status upload.documentId = some .failed ∧ after.chunks = before.chunks))

/-- An error of the extraction, the embedding or the insertion. -/
def Fails (before : Storage) (error : PyError) : Prop :=
  pipeline.prepare upload = some (.error error) ∨
    ∃ chunks embeddings, pipeline.prepare upload = some (.ok (chunks, embeddings)) ∧
      pipeline.refusal (rowsFor upload before chunks embeddings) = some error

/-- The conditions of a consistent outcome: the document has a row, the start can be
announced, the chunker ends, a failure can be reported; and where the rows are stored, each
chunk has an embedding and nothing fails behind them. -/
structure SafelyReported (before : Storage) : Prop where
  registered : upload.documentId ∈ before.documents.map DocumentRow.documentId
  announced : pipeline.setRedisStatus upload "ingesting" none = .ok ()
  ended : pipeline.prepare upload ≠ none
  failed : ∀ error, pipeline.Fails upload before error → pipeline.Reportable upload error
  stored : ∀ chunks embeddings, pipeline.prepare upload = some (.ok (chunks, embeddings)) →
    pipeline.refusal (rowsFor upload before chunks embeddings) = none →
      (pipeline.notify upload = .ok () → chunks.length ≤ embeddings.length) ∧
        ∀ error, pipeline.notify upload = .error error →
          (chunks = [] ∨ embeddings = []) ∧ pipeline.Reportable upload error

section Cases

variable {before after : Storage}

omit [Runtime] in
theorem ingest_of_endless (endless : pipeline.prepare upload = none) :
    pipeline.ingest upload before = .endless := by
  rw [ingest_eq, endless]

omit [Runtime] in
theorem ingest_of_fails {error : PyError} (fails : pipeline.Fails upload before error) :
    pipeline.ingest upload before = .raises error before := by
  rw [ingest_eq]
  rcases fails with prepared | ⟨chunks, embeddings, prepared, refused⟩
  · rw [prepared]
  · rw [prepared]
    dsimp only
    rw [pipeline.store_of_refusal refused]

omit [Runtime] in
theorem ingest_of_taken {chunks : List TextChunk} {embeddings : List Embedding}
    (registered : upload.documentId ∈ before.documents.map DocumentRow.documentId)
    (prepared : pipeline.prepare upload = some (.ok (chunks, embeddings)))
    (taken : pipeline.refusal (rowsFor upload before chunks embeddings) = none) :
    ∃ stored, pipeline.ingest upload before =
        .returns (chunks.map TextChunk.tokenCount).sum stored ∧
      stored.documents = before.documents ∧
      stored.chunks = before.chunks ++ rowsFor upload before chunks embeddings := by
  rcases pipeline.exists_store registered taken with ⟨stored, returned, documents, rows⟩
  refine ⟨stored, ?_, documents, rows⟩
  rw [ingest_eq, prepared]
  dsimp only
  rw [returned]

omit [Runtime] in
/-- The chunker never ends, or something fails, or there are rows that the server takes. -/
theorem prepare_cases :
    pipeline.prepare upload = none ∨ (∃ error, pipeline.Fails upload before error) ∨
      ∃ chunks embeddings, pipeline.prepare upload = some (.ok (chunks, embeddings)) ∧
        pipeline.refusal (rowsFor upload before chunks embeddings) = none := by
  cases prepared : pipeline.prepare upload with
  | none => exact .inl rfl
  | some outcome =>
      right
      cases outcome with
      | error error => exact .inl ⟨error, .inl prepared⟩
      | ok result =>
          rcases result with ⟨chunks, embeddings⟩
          cases taken : pipeline.refusal (rowsFor upload before chunks embeddings) with
          | some error => exact .inl ⟨error, .inr ⟨chunks, embeddings, prepared, taken⟩⟩
          | none => exact .inr ⟨chunks, embeddings, rfl, taken⟩

theorem documentIds_abandoned {storage : Storage} {error : PyError}
    (returned : pipeline.abandoned upload storage error = .returns () after) :
    after.documents.map DocumentRow.documentId =
      storage.documents.map DocumentRow.documentId := by
  rcases (pipeline.abandoned_eq_returns upload).mp returned with ⟨_, rfl⟩
  exact documentIds_marked upload _ _ _

theorem documentIds_concluded {storage : Storage} {totalTokens : Nat}
    (returned : pipeline.concluded upload storage totalTokens = .returns () after) :
    after.documents.map DocumentRow.documentId =
      storage.documents.map DocumentRow.documentId := by
  rcases (pipeline.concluded_eq_returns upload).mp returned with ⟨_, rfl⟩ | ⟨error, _, failed⟩
  · exact documentIds_marked upload _ _ _
  · rw [pipeline.documentIds_abandoned upload failed, documentIds_marked]

/-- A run adds no document and removes none. -/
theorem documentIds_run (returned : pipeline.run upload before = .returns () after) :
    after.documents.map DocumentRow.documentId =
      before.documents.map DocumentRow.documentId := by
  rw [run_eq] at returned
  cases announced : pipeline.setRedisStatus upload "ingesting" none with
  | error error =>
      rw [announced] at returned
      cases returned
  | ok _ =>
      rw [announced] at returned
      dsimp only at returned
      rw [ingest_eq] at returned
      cases prepared : pipeline.prepare upload with
      | none =>
          rw [prepared] at returned
          cases returned
      | some outcome =>
          rw [prepared] at returned
          cases outcome with
          | error error => exact pipeline.documentIds_abandoned upload returned
          | ok result =>
              rcases result with ⟨chunks, embeddings⟩
              dsimp only at returned
              rcases @store_cases pipeline upload before chunks embeddings with
                ⟨stored, same, documents, _⟩ | ⟨error, same⟩
              · rw [same] at returned
                rw [pipeline.documentIds_concluded upload returned, documents]
              · rw [same] at returned
                exact pipeline.documentIds_abandoned upload returned

end Cases

omit [Runtime] in
/-- Where every chunk is stored, every chunk has an embedding. -/
theorem covered_of_storesAll {before after : Storage} {chunks : List TextChunk}
    {embeddings : List Embedding}
    (prepared : pipeline.prepare upload = some (.ok (chunks, embeddings)))
    (rows : after.chunks = before.chunks ++ rowsFor upload before chunks embeddings)
    (complete : pipeline.StoresAll upload before after) :
    chunks.length ≤ embeddings.length := by
  rcases complete with ⟨pages, produced, added, extracted, chunked, stored, views⟩
  rcases pipeline.chunked_of_prepare upload prepared with ⟨others, again, same, rechunked, rfl⟩
  rw [extracted, Except.ok.injEq] at same
  subst same
  rw [chunked, Option.some.injEq] at rechunked
  subst rechunked
  rw [rows, List.append_cancel_left_eq] at stored
  have lengths := congrArg List.length views
  rw [← stored, List.length_map, List.length_map, rowsFor, records, List.length_zipWith,
    Storage.length_drawChunkIds, List.length_zip, min_self] at lengths
  omega

/-- A consistent outcome needs everything that lets the run report it. -/
theorem safelyReported_of_endsConsistently {before : Storage}
    (consistent : pipeline.EndsConsistently upload before) :
    pipeline.SafelyReported upload before := by
  rcases consistent with ⟨after, returned, outcome⟩
  have registered : upload.documentId ∈ before.documents.map DocumentRow.documentId := by
    rw [← pipeline.documentIds_run upload returned]
    have found : ∃ status, after.status upload.documentId = some status := by
      rcases outcome with ⟨indexed, _⟩ | ⟨failed, _⟩
      · exact ⟨_, indexed⟩
      · exact ⟨_, failed⟩
    exact Storage.mem_of_status found
  rw [run_eq] at returned
  cases announced : pipeline.setRedisStatus upload "ingesting" none with
  | error error =>
      rw [announced] at returned
      cases returned
  | ok _ =>
      rw [announced] at returned
      dsimp only at returned
      have ended : pipeline.prepare upload ≠ none := by
        intro endless
        rw [pipeline.ingest_of_endless upload endless] at returned
        cases returned
      refine ⟨registered, announced, ended, ?_, ?_⟩
      · intro error fails
        rw [pipeline.ingest_of_fails upload fails] at returned
        exact ((pipeline.abandoned_eq_returns upload).mp returned).1
      · intro chunks embeddings prepared taken
        rcases pipeline.ingest_of_taken upload registered prepared taken with
          ⟨stored, ran, documents, rows⟩
        rw [ran] at returned
        rcases (pipeline.concluded_eq_returns upload).mp returned with
          ⟨notified, rfl⟩ | ⟨error, undone, failed⟩
        · refine ⟨fun _ => ?_, fun error raised => ?_⟩
          · rw [status_marked, documents, if_pos registered] at outcome
            rcases outcome with ⟨_, complete⟩ | ⟨failed, _⟩
            · exact pipeline.covered_of_storesAll upload prepared rows complete
            · cases failed
          · rw [notified] at raised
            cases raised
        · rcases (pipeline.abandoned_eq_returns upload).mp failed with ⟨reportable, rfl⟩
          refine ⟨fun notified => ?_, fun other raised => ?_⟩
          · rw [notified] at undone
            cases undone
          · rw [undone] at raised
            rcases Except.error.inj raised with rfl
            refine ⟨?_, reportable⟩
            rw [status_marked, documentIds_marked, documents, if_pos registered] at outcome
            rcases outcome with ⟨indexed, _⟩ | ⟨_, same⟩
            · cases indexed
            · have kept : stored.chunks = before.chunks := same
              rw [rows, List.append_right_eq_self] at kept
              exact rowsFor_eq_nil.mp kept

/-- A run whose outcome can be reported ends consistently. -/
theorem endsConsistently_of_safelyReported {before : Storage}
    (reported : pipeline.SafelyReported upload before) :
    pipeline.EndsConsistently upload before := by
  rw [EndsConsistently, run_eq, reported.announced]
  dsimp only
  rcases @prepare_cases pipeline upload before with
    endless | ⟨error, fails⟩ | ⟨chunks, embeddings, prepared, taken⟩
  · exact absurd endless reported.ended
  · rw [pipeline.ingest_of_fails upload fails]
    refine ⟨_, pipeline.abandoned_of_reportable upload (reported.failed error fails) before,
      .inr ⟨?_, ?_⟩⟩
    · rw [status_marked, if_pos reported.registered]
    · rfl
  · rcases reported.stored chunks embeddings prepared taken with ⟨complete, undone⟩
    rcases pipeline.ingest_of_taken upload reported.registered prepared taken with
      ⟨stored, ran, documents, rows⟩
    rw [ran]
    dsimp only
    cases notified : pipeline.notify upload with
    | error error =>
        rcases undone error notified with ⟨none_left, reportable⟩
        have failed := pipeline.abandoned_of_reportable upload reportable
          (marked upload stored .indexed (some (chunks.map TextChunk.tokenCount).sum) none)
        refine ⟨_, (pipeline.concluded_eq_returns upload).mpr (.inr ⟨error, notified, failed⟩),
          .inr ⟨?_, ?_⟩⟩
        · rw [status_marked, documentIds_marked, documents, if_pos reported.registered]
        · change stored.chunks = before.chunks
          rw [rows, rowsFor_eq_nil.mpr none_left, List.append_nil]
    | ok _ =>
        refine ⟨_, (pipeline.concluded_eq_returns upload).mpr (.inl ⟨notified, rfl⟩),
          .inl ⟨?_, ?_⟩⟩
        · rw [status_marked, documents, if_pos reported.registered]
        · rcases pipeline.chunked_of_prepare upload prepared with
            ⟨pages, produced, extracted, chunked, rfl⟩
          refine ⟨pages, produced, _, extracted, chunked, rows, ?_⟩
          have views := map_rowsFor upload before (pipeline.scrub produced) embeddings
            (fun row => (row.documentId, row.content, row.chunkIndex))
            (fun chunk => (upload.documentId, chunk.text, chunk.chunkIndex)) fun _ _ _ => rfl
          rw [views, List.take_of_length_le (complete notified)]

/-- A run ends consistently exactly when its outcome can be reported. -/
theorem endsConsistently_iff (before : Storage) :
    pipeline.EndsConsistently upload before ↔ pipeline.SafelyReported upload before :=
  ⟨pipeline.safelyReported_of_endsConsistently upload,
    pipeline.endsConsistently_of_safelyReported upload⟩

end IngestionPipeline

/-! ### A run without Redis -/

section Sample

attribute [local instance] referenceRuntime

def sampleUpload : Upload where
  documentId := 0xD1
  workspaceId := 1
  projectId := 2
  sessionId := 0xA1
  content := [104, 105]
  filename := "notes.txt"

/-- Everything works but Redis, which is down when the run starts. -/
def samplePipeline : IngestionPipeline where
  redis := some
    { set := fun _ _ => .error ⟨.other "ConnectionError", "Connection refused."⟩
      publish := fun _ _ => .ok () }
  process content _ := .ok [{ text := content.map UInt8.toNat, pageNumber := 1 }]
  scrubPii := id
  voyage := .ok ()
  embed _ batch := .ok (batch.map fun _ => [])
  insertFault _ := none

/-- The row of the upload as it was registered. -/
def sampleDocument : DocumentRow where
  documentId := 0xD1
  workspaceId := 1
  projectId := 2
  sessionId := 0xA1
  filename := "notes.txt"
  fileHash := "8f434346648f6b96df89dda901c5176b10a6d83961dd3c1ac88b59b2dc327aa4"
  r2Key := ""
  status := .pending

def sampleStorage : Storage :=
  { Storage.empty with
    documents := [sampleDocument]
    documentIds := List.nodup_singleton _
    contentKeys := List.nodup_singleton _
    references := nofun }

/-- The run raises before it has started, and its document stays pending. -/
theorem not_endsConsistently_of_samplePipeline :
    ¬∀ pipeline upload before,
      upload.documentId ∈ before.documents.map DocumentRow.documentId →
        IngestionPipeline.EndsConsistently pipeline upload before := by
  intro all
  have consistent := all samplePipeline sampleUpload sampleStorage List.mem_cons_self
  have announced :=
    (samplePipeline.safelyReported_of_endsConsistently sampleUpload consistent).announced
  cases announced

end Sample

end Chitragupt
