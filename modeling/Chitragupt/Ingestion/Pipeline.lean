import Chitragupt.Ingestion.Chunker
import Chitragupt.Ingestion.Storage
import Chitragupt.Lib.Effect
import Chitragupt.Pipeline.Config

/-!
# The ingestion pipeline

One run extracts the text of a document, cuts it into chunks, embeds and stores them, and
writes the status of the document to the database and to Redis.  Embedding, extraction and
the servers answer as they like; the answers are fields of the pipeline.
-/

namespace Chitragupt

open Effects (Effect)
open Python (PyError)

/-- The Redis client, by what it answers. -/
structure RedisClient where
  set : String → String → Except PyError Unit
  publish : String → String → Except PyError Unit

/-- The arguments of one run. -/
structure Upload where
  documentId : Uuid
  workspaceId : Uuid
  projectId : Uuid
  sessionId : Uuid
  content : List UInt8
  filename : String

/-- A pipeline with everything that it calls: the text extraction, the PII patterns, the
constructor of the embedding client and the answers to its numbered batches, and what may
keep the server from inserting rows that violate no constraint of the tables. -/
structure IngestionPipeline where
  config : IngestionConfig := {}
  redis : Option RedisClient
  process : List UInt8 → String → Except PyError (List RawPage)
  scrubPii : Text → Text
  voyage : Except PyError Unit
  embed : Nat → List Text → Except PyError (List Embedding)
  insertFault : List ChunkRow → Option PyError

/-! ## Sparse vectors -/

/-- Count one more occurrence of a term. -/
def countTerm (term : Text) : List (Text × Nat) → List (Text × Nat)
  | [] => [(term, 1)]
  | (other, count) :: rest =>
      if other = term then (other, count + 1) :: rest
      else (other, count) :: countTerm term rest

/-- The relative frequencies of the lower-cased tokens, in order of first occurrence. -/
def bm25Sparse (tokens : List Text) : List (Text × ℚ) :=
  let freq := tokens.foldl (fun freq token => countTerm (Text.lower token) freq) []
  let total := if tokens.length = 0 then 1 else tokens.length
  freq.map fun (term, count) => (term, count / total)

/-- A row with another status. -/
def DocumentRow.withStatus (row : DocumentRow) (status : DocumentStatus)
    (tokenCount : Option Nat) (errorMessage : Option String) : DocumentRow :=
  { row with
    status
    tokenCount := tokenCount <|> row.tokenCount
    errorMessage }

namespace DocumentRow

variable (status : DocumentStatus) (tokenCount : Option Nat) (errorMessage : Option String)

theorem documentId_withStatus (row : DocumentRow) :
    (row.withStatus status tokenCount errorMessage).documentId = row.documentId := rfl

theorem contentKey_withStatus (row : DocumentRow) :
    (row.withStatus status tokenCount errorMessage).contentKey = row.contentKey := rfl

end DocumentRow

namespace IngestionPipeline

/-! ## The repository -/

/-- `update_document_status`.  A missing count keeps the old one, a missing message clears
it; a document without a row is passed over. -/
def updateDocumentStatus (documentId : Uuid) (status : DocumentStatus)
    (tokenCount : Option Nat) (errorMessage : Option String) :
    Effect PyError Storage Unit :=
  Effect.modify fun storage =>
    storage.updateDocument documentId (·.withStatus status tokenCount errorMessage)
      (DocumentRow.documentId_withStatus status tokenCount errorMessage)
      (DocumentRow.contentKey_withStatus status tokenCount errorMessage)

variable [Runtime] (pipeline : IngestionPipeline)

omit [Runtime] in
/-- `insert_chunks`, in one implicit transaction. -/
def insertChunks (rows : List ChunkRow) : Effect PyError Storage Unit :=
  if rows = [] then pure ()
  else
    match pipeline.insertFault rows with
    | some error => Effect.ofExcept (.error error)
    | none => Effect.update (·.insertChunks rows)

/-! ## The steps of a run -/

def chunker : Chunker where
  size := pipeline.config.chunkSizeTokens
  overlap := pipeline.config.chunkOverlapTokens
  minTokens := pipeline.config.minChunkTokens

/-- The batches of the embedder.  A negative batch size leaves the loop without a round. -/
def embedTexts (texts : List Text) : Except PyError (List Embedding) := do
  if texts = [] then return []
  pipeline.voyage
  let batchSize := pipeline.config.embeddingBatchSize
  if batchSize = 0 then throw (.valueError "range() arg 3 must not be zero")
  let batches := if batchSize < 0 then [] else texts.toChunks batchSize.toNat
  let responses ← batches.zipIdx.mapM fun (batch, index) => pipeline.embed index batch
  return responses.flatten

/-- The row of a chunk. -/
def record (upload : Upload) (chunk : TextChunk) (embedding : Embedding)
    (chunkId : ChunkId) : ChunkRow where
  chunkId
  documentId := upload.documentId
  workspaceId := upload.workspaceId
  projectId := upload.projectId
  content := chunk.text
  embedding
  sparseVector := bm25Sparse (Python.split chunk.text)
  chunkIndex := chunk.chunkIndex
  tokenCount := chunk.tokenCount
  sectionTitle := chunk.sectionTitle
  pageNumber := chunk.pageNumber

/-- The rows of the chunks that have an embedding. -/
def records (upload : Upload) (chunks : List TextChunk) (embeddings : List Embedding)
    (chunkIds : List ChunkId) : List ChunkRow :=
  List.zipWith (fun (chunk, embedding) => record upload chunk embedding)
    (chunks.zip embeddings) chunkIds

/-- The chunks as they are stored. -/
def scrub (chunks : List TextChunk) : List TextChunk :=
  if pipeline.config.piiScrubEnabled then
    chunks.map fun chunk => { chunk with text := pipeline.scrubPii chunk.text }
  else
    chunks

/-- The records are built when they are stored, with identifiers that are new then. -/
def store (upload : Upload) (chunks : List TextChunk) (embeddings : List Embedding) :
    Effect PyError Storage Unit := do
  let chunkIds := (← Effect.get).drawChunkIds (min chunks.length embeddings.length)
  pipeline.insertChunks (records upload chunks embeddings chunkIds)

def ingest (upload : Upload) : Effect PyError Storage Nat := do
  let pages ← pipeline.process upload.content upload.filename
  match pipeline.chunker.chunk pages with
  | none => Effect.endless
  | some [] => return 0
  | some chunks =>
      let chunks := pipeline.scrub chunks
      let embeddings ← pipeline.embedTexts (chunks.map TextChunk.text)
      let totalTokens := (chunks.map TextChunk.tokenCount).sum
      pipeline.store upload chunks embeddings
      return totalTokens

/-- `_set_redis_status`: the status, and the start of an error that is not empty. -/
def setRedisStatus (upload : Upload) (status : String) (error : Option String) :
    Except PyError Unit :=
  match pipeline.redis with
  | none => .ok ()
  | some redis => do
      let workspace := Runtime.hyphenated upload.workspaceId
      let document := Runtime.hyphenated upload.documentId
      redis.set s!"doc:{workspace}:{document}:status" status
      let error := error.getD ""
      if error ≠ "" then
        redis.set s!"doc:{workspace}:{document}:error" (String.ofList (error.toList.take 500))

def publishIndexed (upload : Upload) : Except PyError Unit :=
  match pipeline.redis with
  | none => .ok ()
  | some redis =>
      let workspace := Runtime.hyphenated upload.workspaceId
      let document := Runtime.hyphenated upload.documentId
      redis.publish s!"events:{workspace}:{document}:indexed" "indexed"

def run (upload : Upload) : Effect PyError Storage Unit := do
  pipeline.setRedisStatus upload "ingesting" none
  Effect.handle
    (do
      let totalTokens ← pipeline.ingest upload
      updateDocumentStatus upload.documentId .indexed (some totalTokens) none
      pipeline.setRedisStatus upload "indexed" none
      pipeline.publishIndexed upload)
    fun error => do
      updateDocumentStatus upload.documentId .failed none (some error.message)
      pipeline.setRedisStatus upload "failed" (some error.message)

end IngestionPipeline

end Chitragupt
