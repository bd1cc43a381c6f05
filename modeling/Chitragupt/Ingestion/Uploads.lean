import Chitragupt.Ingestion.Outcome
import Chitragupt.Lib.Machine

/-!
# Uploads and their background runs

A request registers its document and starts a run in the background; the runs of all
requests then take turns at their awaits.  The run is given a second time as a machine
whose moves are the awaited steps, and the two agree: a move leaves what is still to come
as it was.
-/

namespace Chitragupt

open Effects (Effect Attempt)
open Machines (Machine)
open Python (PyError)

/-- Where a run is: the step that it is about to take. -/
inductive Stage where
  | announce
  | ingest
  | store (chunks : List TextChunk) (embeddings : List Embedding)
  | markIndexed (totalTokens : Nat)
  | notify
  | publish
  | markFailed (error : PyError)
  | report (error : PyError)
  | ended (result : Except PyError Unit)

/-- How many moves are left at most. -/
def Stage.rank : Stage → Nat
  | .announce => 8
  | .ingest => 7
  | .store _ _ => 6
  | .markIndexed _ => 5
  | .notify => 4
  | .publish => 3
  | .markFailed _ => 2
  | .report _ => 1
  | .ended _ => 0

namespace IngestionPipeline

variable [Runtime] (pipeline : IngestionPipeline) (upload : Upload)

/-! ## One move of a run -/

/-- The next step of a run.  The awaits of the embedder and of the second Redis command of
a failure touch nothing that is shared, so they are part of their steps.  A chunker that
never ends makes no move. -/
def advance : Stage → Storage → Option (Stage × Storage)
  | .announce, storage =>
      match pipeline.setRedisStatus upload "ingesting" none with
      | .ok _ => some (.ingest, storage)
      | .error error => some (.ended (.error error), storage)
  | .ingest, storage =>
      match pipeline.prepare upload with
      | none => none
      | some (.error error) => some (.markFailed error, storage)
      | some (.ok (chunks, embeddings)) => some (.store chunks embeddings, storage)
  | .store chunks embeddings, storage =>
      match pipeline.store upload chunks embeddings storage with
      | .returns _ after => some (.markIndexed (chunks.map TextChunk.tokenCount).sum, after)
      | .raises error after => some (.markFailed error, after)
      | .endless => none
  | .markIndexed totalTokens, storage =>
      some (.notify, marked upload storage .indexed (some totalTokens) none)
  | .notify, storage =>
      match pipeline.setRedisStatus upload "indexed" none with
      | .ok _ => some (.publish, storage)
      | .error error => some (.markFailed error, storage)
  | .publish, storage =>
      match pipeline.publishIndexed upload with
      | .ok _ => some (.ended (.ok ()), storage)
      | .error error => some (.markFailed error, storage)
  | .markFailed error, storage =>
      some (.report error, marked upload storage .failed none (some error.message))
  | .report error, storage =>
      some (.ended (pipeline.setRedisStatus upload "failed" (some error.message)), storage)
  | .ended _, _ => none

/-- What is still to come of a run. -/
def rest : Stage → Storage → Attempt PyError Storage Unit
  | .announce, storage => pipeline.run upload storage
  | .ingest, storage =>
      match pipeline.ingest upload storage with
      | .returns totalTokens after => pipeline.concluded upload after totalTokens
      | .raises error after => pipeline.abandoned upload after error
      | .endless => .endless
  | .store chunks embeddings, storage =>
      match pipeline.store upload chunks embeddings storage with
      | .returns _ after =>
          pipeline.concluded upload after (chunks.map TextChunk.tokenCount).sum
      | .raises error after => pipeline.abandoned upload after error
      | .endless => .endless
  | .markIndexed totalTokens, storage => pipeline.concluded upload storage totalTokens
  | .notify, storage =>
      match pipeline.notify upload with
      | .ok _ => .returns () storage
      | .error error => pipeline.abandoned upload storage error
  | .publish, storage =>
      match pipeline.publishIndexed upload with
      | .ok _ => .returns () storage
      | .error error => pipeline.abandoned upload storage error
  | .markFailed error, storage => pipeline.abandoned upload storage error
  | .report error, storage =>
      match pipeline.setRedisStatus upload "failed" (some error.message) with
      | .ok _ => .returns () storage
      | .error error => .raises error storage
  | .ended (.ok _), storage => .returns () storage
  | .ended (.error error), storage => .raises error storage

variable {pipeline upload}

/-- A move leaves what is still to come as it was. -/
theorem rest_advance {stage next : Stage} {storage after : Storage}
    (moved : pipeline.advance upload stage storage = some (next, after)) :
    pipeline.rest upload stage storage = pipeline.rest upload next after := by
  cases stage with
  | announce =>
      rw [advance] at moved
      rw [rest, run_eq]
      cases announced : pipeline.setRedisStatus upload "ingesting" none with
      | error error =>
          rw [announced] at moved
          cases moved
          rfl
      | ok _ =>
          rw [announced] at moved
          cases moved
          rfl
  | ingest =>
      rw [advance] at moved
      rw [rest, ingest_eq]
      cases prepared : pipeline.prepare upload with
      | none =>
          rw [prepared] at moved
          cases moved
      | some outcome =>
          rw [prepared] at moved
          cases outcome with
          | error error =>
              cases moved
              rfl
          | ok result =>
              rcases result with ⟨chunks, embeddings⟩
              cases moved
              rw [rest]
              dsimp only
              cases pipeline.store upload chunks embeddings storage <;> rfl
  | store chunks embeddings =>
      rw [advance] at moved
      rw [rest]
      cases stored : pipeline.store upload chunks embeddings storage with
      | returns value final =>
          rw [stored] at moved
          cases moved
          rw [rest]
      | raises error final =>
          rw [stored] at moved
          cases moved
          rw [rest]
      | endless =>
          rw [stored] at moved
          cases moved
  | markIndexed totalTokens =>
      cases moved
      rfl
  | notify =>
      rw [advance] at moved
      rw [rest, IngestionPipeline.notify]
      cases announced : pipeline.setRedisStatus upload "indexed" none with
      | error error =>
          rw [announced] at moved
          cases moved
          rfl
      | ok _ =>
          rw [announced] at moved
          cases moved
          rfl
  | publish =>
      rw [advance] at moved
      rw [rest]
      cases published : pipeline.publishIndexed upload with
      | error error =>
          rw [published] at moved
          cases moved
          rfl
      | ok _ =>
          rw [published] at moved
          cases moved
          rfl
  | markFailed error =>
      cases moved
      rfl
  | report error =>
      cases moved
      rw [rest]
      cases pipeline.setRedisStatus upload "failed" (some error.message) <;> rfl
  | ended result => cases moved

/-- What a move writes: nothing, the rows of the document's chunks, or its status. -/
inductive Writes (pipeline : IngestionPipeline) (upload : Upload) (storage : Storage) :
    Stage → Stage → Storage → Prop where
  | nothing (stage next : Stage) : Writes pipeline upload storage stage next storage
  | chunks (chunks : List TextChunk) (embeddings : List Embedding) (after : Storage)
      (registered : rowsFor upload storage chunks embeddings ≠ [] →
        upload.documentId ∈ storage.documents.map DocumentRow.documentId)
      (documents : after.documents = storage.documents)
      (rows : after.chunks = storage.chunks ++ rowsFor upload storage chunks embeddings) :
      Writes pipeline upload storage (.store chunks embeddings)
        (.markIndexed (chunks.map TextChunk.tokenCount).sum) after
  | indexed (totalTokens : Nat) :
      Writes pipeline upload storage (.markIndexed totalTokens) .notify
        (marked upload storage .indexed (some totalTokens) none)
  | failed (error : PyError) :
      Writes pipeline upload storage (.markFailed error) (.report error)
        (marked upload storage .failed none (some error.message))

theorem writes_advance {stage next : Stage} {storage after : Storage}
    (moved : pipeline.advance upload stage storage = some (next, after)) :
    Writes pipeline upload storage stage next after := by
  cases stage with
  | announce =>
      rw [advance] at moved
      split at moved
      · cases moved
        exact .nothing _ _
      · cases moved
        exact .nothing _ _
  | ingest =>
      rw [advance] at moved
      split at moved
      · cases moved
      · cases moved
        exact .nothing _ _
      · cases moved
        exact .nothing _ _
  | store chunks embeddings =>
      rw [advance] at moved
      rcases @store_cases pipeline upload storage chunks embeddings with
        ⟨stored, same, documents, rows, registered⟩ | ⟨error, same⟩
      · rw [same] at moved
        cases moved
        exact .chunks chunks embeddings after registered documents rows
      · rw [same] at moved
        cases moved
        exact .nothing _ _
  | markIndexed totalTokens =>
      cases moved
      exact .indexed totalTokens
  | notify =>
      rw [advance] at moved
      split at moved
      · cases moved
        exact .nothing _ _
      · cases moved
        exact .nothing _ _
  | publish =>
      rw [advance] at moved
      split at moved
      · cases moved
        exact .nothing _ _
      · cases moved
        exact .nothing _ _
  | markFailed error =>
      cases moved
      exact .failed error
  | report error =>
      cases moved
      exact .nothing _ _
  | ended result => cases moved

omit [Runtime] in
/-- A move keeps the keys of all documents. -/
theorem Writes.exists_document {stage next : Stage} {storage after : Storage}
    (writes : Writes pipeline upload storage stage next after) :
    ∀ row ∈ after.documents, ∃ old ∈ storage.documents,
      old.documentId = row.documentId ∧ old.contentKey = row.contentKey := by
  intro row member
  cases writes with
  | nothing => exact ⟨row, member, rfl, rfl⟩
  | chunks chunks embeddings _ registered documents rows =>
      exact ⟨row, documents ▸ member, rfl, rfl⟩
  | indexed totalTokens => exact Storage.exists_of_mem_updateDocument member
  | failed error => exact Storage.exists_of_mem_updateDocument member

omit [Runtime] in
/-- A move adds chunks behind those that are there. -/
theorem Writes.chunks_eq {stage next : Stage} {storage after : Storage}
    (writes : Writes pipeline upload storage stage next after) :
    after.chunks = storage.chunks ++ after.chunks.drop storage.chunks.length := by
  have unchanged : storage.chunks =
      storage.chunks ++ storage.chunks.drop storage.chunks.length := by
    rw [List.drop_length, List.append_nil]
  cases writes with
  | nothing => exact unchanged
  | chunks chunks embeddings _ registered documents rows => rw [rows, List.drop_left]
  | indexed totalTokens => exact unchanged
  | failed error => exact unchanged

omit [Runtime] in
/-- A move leaves the other documents alone. -/
theorem Writes.document_of_ne {stage next : Stage} {storage after : Storage}
    (writes : Writes pipeline upload storage stage next after) {other : Uuid}
    (different : other ≠ upload.documentId) :
    after.document other = storage.document other := by
  cases writes with
  | nothing => rfl
  | chunks chunks embeddings _ registered documents rows =>
      rw [Storage.document, documents, Storage.document]
  | indexed totalTokens => exact Storage.document_updateDocument_of_ne different
  | failed error => exact Storage.document_updateDocument_of_ne different

omit [Runtime] in
/-- A run without a row writes nothing. -/
theorem Writes.eq_of_unregistered {stage next : Stage} {storage after : Storage}
    (writes : Writes pipeline upload storage stage next after)
    (unregistered : upload.documentId ∉ storage.documents.map DocumentRow.documentId) :
    after = storage := by
  cases writes with
  | nothing => rfl
  | chunks chunks embeddings _ registered documents rows =>
      apply Storage.ext
      · exact documents
      · have none_left : rowsFor upload storage chunks embeddings = [] := by
          by_contra some_rows
          exact unregistered (registered some_rows)
        rw [rows, none_left, List.append_nil]
  | indexed totalTokens => exact Storage.updateDocument_eq_self unregistered
  | failed error => exact Storage.updateDocument_eq_self unregistered

omit [Runtime] in
/-- Only the step that stores adds chunks. -/
theorem Writes.rank_of_added {stage next : Stage} {storage after : Storage}
    (writes : Writes pipeline upload storage stage next after) {chunk : ChunkRow}
    (added : chunk ∈ after.chunks.drop storage.chunks.length) : 6 ≤ stage.rank := by
  have none_left : chunk ∉ storage.chunks.drop storage.chunks.length := by
    rw [List.drop_length]
    exact List.not_mem_nil
  cases writes with
  | nothing => exact absurd added none_left
  | chunks chunks embeddings _ registered documents rows => exact le_refl _
  | indexed totalTokens => exact absurd added none_left
  | failed error => exact absurd added none_left

theorem rank_advance {stage next : Stage} {storage after : Storage}
    (moved : pipeline.advance upload stage storage = some (next, after)) :
    next.rank < stage.rank := by
  cases stage with
  | announce | ingest | store | notify | publish =>
      rw [advance] at moved
      split at moved
      all_goals first
        | cases moved; done
        | cases moved
          simp [Stage.rank]
  | markIndexed | markFailed | report =>
      cases moved
      simp [Stage.rank]
  | ended => cases moved

/-- A run stops only where it has ended, or where the chunker never ends. -/
theorem advance_eq_none {stage : Stage} {storage : Storage}
    (stopped : pipeline.advance upload stage storage = none) :
    pipeline.prepare upload = none ∨ ∃ result, stage = .ended result := by
  cases stage with
  | announce | notify | publish =>
      rw [advance] at stopped
      split at stopped <;> cases stopped
  | ingest =>
      rw [advance] at stopped
      split at stopped
      next endless => exact .inl endless
      next => cases stopped
      next => cases stopped
  | store chunks embeddings =>
      rw [advance] at stopped
      rcases @store_cases pipeline upload storage chunks embeddings with
        ⟨stored, same, _⟩ | ⟨error, same⟩
      · rw [same] at stopped
        cases stopped
      · rw [same] at stopped
        cases stopped
  | markIndexed | markFailed | report => cases stopped
  | ended result => exact .inr ⟨result, rfl⟩

theorem prepare_of_advance {stage : Stage} {storage after : Storage}
    {chunks : List TextChunk} {embeddings : List Embedding}
    (moved : pipeline.advance upload stage storage = some (.store chunks embeddings, after)) :
    pipeline.prepare upload = some (.ok (chunks, embeddings)) := by
  cases stage with
  | ingest =>
      rw [advance] at moved
      cases prepared : pipeline.prepare upload with
      | none =>
          rw [prepared] at moved
          cases moved
      | some outcome =>
          rw [prepared] at moved
          cases outcome with
          | error error => cases moved
          | ok result =>
              cases moved
              rfl
  | announce | store | notify | publish =>
      rw [advance] at moved
      split at moved <;> cases moved
  | markIndexed | markFailed | report | ended => cases moved

end IngestionPipeline

/-! ## The servicer -/

structure IngestRequest where
  documentId : String
  workspaceId : String
  projectId : String
  sessionId : String
  content : List UInt8
  filename : String

structure IngestResponse where
  documentId : String
  status : String
  deriving DecidableEq

/-- A run in the background.  The rows that it has stored are kept for the record. -/
structure IngestTask where
  upload : Upload
  pipeline : IngestionPipeline
  stage : Stage := .announce
  stored : List ChunkRow := []

/-- The tables and the runs of the accepted requests. -/
structure Uploads where
  storage : Storage
  tasks : List IngestTask

def Uploads.empty : Uploads where
  storage := .empty
  tasks := []

/-- A servicer, with the constructor of identifiers and the hash of contents. -/
structure IngestServicer where
  protoAvailable : Bool
  parseUuid : String → Option Uuid
  sha256 : List UInt8 → String

/-- What happens next: a request, with the pipeline of its run and what may keep the
database from registering it, or a move of one run. -/
inductive UploadEvent where
  | request (request : IngestRequest) (pipeline : IngestionPipeline)
      (createFault : Option PyError)
  | move (task : Nat)

namespace IngestServicer

variable [Runtime] (servicer : IngestServicer)

omit [Runtime] in
def parse (request : IngestRequest) : Option Upload := do
  let documentId ← servicer.parseUuid request.documentId
  let workspaceId ← servicer.parseUuid request.workspaceId
  let projectId ← servicer.parseUuid request.projectId
  let sessionId ← servicer.parseUuid request.sessionId
  return {
    documentId, workspaceId, projectId, sessionId
    content := request.content
    filename := request.filename }

omit [Runtime] in
/-- The row that `create_document` inserts. -/
def documentRow (upload : Upload) : DocumentRow where
  documentId := upload.documentId
  workspaceId := upload.workspaceId
  projectId := upload.projectId
  sessionId := upload.sessionId
  filename := upload.filename
  fileHash := servicer.sha256 upload.content
  r2Key := ""
  status := .pending

omit [Runtime] in
def createDocument (upload : Upload) (storage : Storage) : Except PyError Storage :=
  storage.insertDocument (servicer.documentRow upload)

/-- `IngestDocument`.  The run starts whether or not a row was inserted. -/
def ingestDocument (request : IngestRequest) (pipeline : IngestionPipeline)
    (createFault : Option PyError) (uploads : Uploads) :
    Uploads × Except PyError (Option IngestResponse) :=
  if !servicer.protoAvailable then (uploads, .ok none)
  else
    match servicer.parse request with
    | none => (uploads, .ok (some { documentId := "", status := "rejected" }))
    | some upload =>
        let documentId := Runtime.hyphenated upload.documentId
        if upload.content = [] then
          (uploads, .ok (some { documentId, status := "rejected" }))
        else
          match createFault with
          | some error => (uploads, .error error)
          | none =>
              match servicer.createDocument upload uploads.storage with
              | .error error => (uploads, .error error)
              | .ok storage =>
                  ({ storage, tasks := uploads.tasks ++ [{ upload, pipeline }] },
                    .ok (some { documentId, status := "accepted" }))

end IngestServicer

/-- A run at its next stage. -/
def IngestTask.moved (task : IngestTask) (stage : Stage) (before after : Storage) : IngestTask :=
  { task with
    stage
    stored := task.stored ++ after.chunks.drop before.chunks.length }

/-- A run is found where it was put. -/
theorem getElem?_set_of_some {α : Type} {items : List α} {index : Nat} {old : α}
    (listed : items[index]? = some old) (new : α) : (items.set index new)[index]? = some new :=
  List.getElem?_set_self (List.getElem?_eq_some_iff.mp listed).1

/-- One move of a run. -/
def IngestTask.move [Runtime] (task : IngestTask) (storage : Storage) :
    Option (IngestTask × Storage) :=
  (task.pipeline.advance task.upload task.stage storage).map fun (stage, after) =>
    (task.moved stage storage after, after)

namespace IngestServicer

variable [Runtime] (servicer : IngestServicer)

/-- The service as a machine. -/
def machine : Machine Uploads UploadEvent (Option (Except PyError (Option IngestResponse))) where
  step uploads
    | .request request pipeline createFault =>
        let (uploads, response) :=
          servicer.ingestDocument request pipeline createFault uploads
        (uploads, some response)
    | .move index =>
        match uploads.tasks[index]? with
        | none => (uploads, none)
        | some task =>
            match task.move uploads.storage with
            | none => (uploads, none)
            | some (task, storage) => ({ storage, tasks := uploads.tasks.set index task }, none)

omit [Runtime] in
/-- The request is well formed and the database registers it. -/
structure Accepts (uploads : Uploads) (request : IngestRequest)
    (createFault : Option PyError) (upload : Upload) (storage : Storage) : Prop where
  available : servicer.protoAvailable = true
  parsed : servicer.parse request = some upload
  nonempty : upload.content ≠ []
  reachable : createFault = none
  created : servicer.createDocument upload uploads.storage = .ok storage

/-- What one event does. -/
inductive Step (before : Uploads) : UploadEvent → Uploads → Prop where
  | idle (event : UploadEvent) : Step before event before
  | accept (request : IngestRequest) (pipeline : IngestionPipeline)
      (createFault : Option PyError) (upload : Upload) (storage : Storage)
      (accepts : servicer.Accepts before request createFault upload storage) :
      Step before (.request request pipeline createFault)
        { storage, tasks := before.tasks ++ [{ upload, pipeline }] }
  | move (index : Nat) (task : IngestTask) (stage : Stage) (storage : Storage)
      (listed : before.tasks[index]? = some task)
      (moved : task.pipeline.advance task.upload task.stage before.storage =
        some (stage, storage)) :
      Step before (.move index)
        { storage
          tasks := before.tasks.set index (task.moved stage before.storage storage) }

theorem machine_step (before : Uploads) (event : UploadEvent) :
    servicer.Step before event (servicer.machine.next before event) := by
  cases event with
  | request request pipeline createFault =>
      change servicer.Step before _ (servicer.ingestDocument request pipeline createFault before).1
      rw [ingestDocument]
      split
      next => exact .idle _
      next available =>
        cases parsed : servicer.parse request with
        | none => exact .idle _
        | some upload =>
            dsimp only
            split
            next => exact .idle _
            next nonempty =>
              cases createFault with
              | some error => exact .idle _
              | none =>
                  dsimp only
                  cases created : servicer.createDocument upload before.storage with
                  | error error => exact .idle _
                  | ok storage =>
                      apply Step.accept
                      exact ⟨by simpa using available, parsed, nonempty, rfl, created⟩
  | move index =>
      rw [Machine.next, machine]
      dsimp only
      cases listed : before.tasks[index]? with
      | none => exact .idle _
      | some task =>
          dsimp only
          rw [IngestTask.move]
          cases moved : task.pipeline.advance task.upload task.stage before.storage with
          | none => exact .idle _
          | some result =>
              rcases result with ⟨stage, storage⟩
              exact .move index task stage storage listed moved

/-! ## Events one by one -/

variable {servicer} {uploads : Uploads}

theorem next_of_accepts {request : IngestRequest} {pipeline : IngestionPipeline}
    {createFault : Option PyError} {upload : Upload} {storage : Storage}
    (accepts : servicer.Accepts uploads request createFault upload storage) :
    servicer.machine.next uploads (.request request pipeline createFault) =
      { storage, tasks := uploads.tasks ++ [{ upload, pipeline }] } := by
  rcases accepts with ⟨available, parsed, nonempty, rfl, created⟩
  change (servicer.ingestDocument request pipeline none uploads).1 = _
  rw [ingestDocument, available, Bool.not_true, if_neg Bool.false_ne_true, parsed]
  dsimp only
  rw [if_neg nonempty, created]

theorem next_move_of_none {index : Nat} (unlisted : uploads.tasks[index]? = none) :
    servicer.machine.next uploads (.move index) = uploads := by
  rw [Machine.next, machine]
  dsimp only
  rw [unlisted]

theorem next_move_of_stopped {index : Nat} {task : IngestTask}
    (listed : uploads.tasks[index]? = some task)
    (stopped : task.pipeline.advance task.upload task.stage uploads.storage = none) :
    servicer.machine.next uploads (.move index) = uploads := by
  rw [Machine.next, machine]
  dsimp only
  rw [listed]
  dsimp only
  rw [IngestTask.move, stopped]
  rfl

theorem next_move {index : Nat} {task : IngestTask} {stage : Stage} {storage : Storage}
    (listed : uploads.tasks[index]? = some task)
    (moved : task.pipeline.advance task.upload task.stage uploads.storage =
      some (stage, storage)) :
    servicer.machine.next uploads (.move index) =
      { storage, tasks := uploads.tasks.set index (task.moved stage uploads.storage storage) } := by
  rw [Machine.next, machine]
  dsimp only
  rw [listed]
  dsimp only
  rw [IngestTask.move, moved]
  rfl

end IngestServicer

/-! ### A request and its run -/

section Sample

attribute [local instance] referenceRuntime

/-- Everything works, and there is no Redis. -/
def plainPipeline : IngestionPipeline := { samplePipeline with redis := none }

/-- The embedder is down. -/
def darkPipeline : IngestionPipeline :=
  { plainPipeline with
    embed := fun _ _ => .error ⟨.other "ServiceUnavailableError", "The service is overloaded."⟩ }

def sampleIngestRequest : IngestRequest where
  documentId := "000000000000000000000000000000d1"
  workspaceId := "00000000000000000000000000000001"
  projectId := "00000000000000000000000000000002"
  sessionId := "000000000000000000000000000000a1"
  content := [104, 105]
  filename := "notes.txt"

/-- The hash of the one content that is uploaded here. -/
def sampleIngestServicer : IngestServicer where
  protoAvailable := true
  parseUuid := ReferenceText.parse
  sha256 _ := sampleDocument.fileHash

/-- A request with the given pipeline, and its run to the end. -/
def uploadedBy (pipeline : IngestionPipeline) (task : Nat) : List UploadEvent :=
  .request sampleIngestRequest pipeline none :: List.replicate 6 (.move task)

theorem parse_sampleIngestRequest : sampleIngestServicer.parse sampleIngestRequest = some sampleUpload := rfl

end Sample

end Chitragupt
