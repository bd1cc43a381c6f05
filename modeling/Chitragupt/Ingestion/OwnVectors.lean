import Chitragupt.Ingestion.Outcome
import Chitragupt.Lib.Batches

/-!
# The vectors of the chunks

The embedder joins the responses to its batches, and the records pair the chunks with the
vectors in order.  A chunk gets the vector of its own text when the vectors come from the
places of the texts.
-/

namespace Chitragupt

open Batches (placed places Answered)
open Python (PyError)

namespace IngestionPipeline

variable (pipeline : IngestionPipeline) (upload : Upload)

/-- The batches of the texts; there is none where the batch size is negative. -/
def batches (texts : List Text) : List (List Text) :=
  if pipeline.config.embeddingBatchSize < 0 then []
  else texts.toChunks pipeline.config.embeddingBatchSize.toNat

/-- The vectors that the client returns for each batch. -/
def responses (texts : List Text) : Except PyError (List (List Embedding)) :=
  (pipeline.batches texts).zipIdx.mapM fun (batch, index) => pipeline.embed index batch

/-- The chunks of a document as they are to be stored. -/
def chunksOf : Option (List TextChunk) :=
  match pipeline.process upload.content upload.filename with
  | .error _ => none
  | .ok pages => (pipeline.chunker.chunk pages).map pipeline.scrub

/-- Every chunk has one row, and the vectors of the rows are returned vectors whose places are
the places of the texts. -/
structure OwnVectors (chunks : List TextChunk) (batches : List (List Text))
    (responses : List (List Embedding)) (rows : List ChunkRow) : Prop where
  chunks : rows.map (fun row => (row.chunkIndex, row.content)) =
    chunks.map fun chunk => (chunk.chunkIndex, chunk.text)
  vectors : ∃ returned, returned <+: placed 0 responses ∧
    rows.map ChunkRow.embedding = returned.map Prod.snd ∧
      returned.map Prod.fst = places 0 batches

/-- The document is stored with the vectors of its own texts. -/
def StoresOwnVectors (before after : Storage) : Prop :=
  ∀ chunks, pipeline.chunksOf upload = some chunks → ∃ rows responses,
    after.chunks = before.chunks ++ rows ∧
      pipeline.responses (chunks.map TextChunk.text) = .ok responses ∧
        OwnVectors chunks (pipeline.batches (chunks.map TextChunk.text)) responses rows

/-- The ingestion raises, or stores the document so. -/
def KeepsVectors (before : Storage) : Prop :=
  ∀ totalTokens after, pipeline.ingest upload before = .returns totalTokens after →
    pipeline.StoresOwnVectors upload before after

section Stored

variable {upload} {before after : Storage} {chunks : List TextChunk}

/-- What the embedder returns. -/
theorem embedTexts_eq_ok {texts : List Text} (some : texts ≠ []) {embeddings : List Embedding}
    (embedded : pipeline.embedTexts texts = .ok embeddings) :
    pipeline.config.embeddingBatchSize ≠ 0 ∧ ∃ responses,
      pipeline.responses texts = .ok responses ∧ embeddings = responses.flatten := by
  unfold embedTexts at embedded
  rw [if_neg some] at embedded
  rcases Python.bind_eq_ok.mp embedded with ⟨_, _, embedded⟩
  dsimp only at embedded
  rcases ite_eq_iff.mp embedded with ⟨_, failed⟩ | ⟨nonzero, embedded⟩
  · cases failed
  · rcases Python.bind_eq_ok.mp embedded with ⟨responses, answered, joined⟩
    exact ⟨nonzero, responses, answered, (Except.ok.inj joined).symm⟩

theorem map_embedding_rowsFor (chunks : List TextChunk) (embeddings : List Embedding) :
    (rowsFor upload before chunks embeddings).map ChunkRow.embedding =
      embeddings.take chunks.length := by
  rw [rowsFor, records, List.map_zipWith]
  apply List.ext_getElem
  · simp [Storage.length_drawChunkIds]
  · intro index _ _
    simp [record]

/-- The rows that a run stores have the vectors of their own texts exactly when the batches
are answered. -/
theorem ownVectors_rowsFor_iff {batches : List (List Text)}
    (texts : batches.flatten = chunks.map TextChunk.text) (nonempty : [] ∉ batches)
    (responses : List (List Embedding)) :
    OwnVectors chunks batches responses (rowsFor upload before chunks responses.flatten) ↔
      Answered batches responses := by
  rw [← Batches.places_prefix_iff nonempty responses 0]
  constructor
  · rintro ⟨_, returned, start, _, own⟩
    rw [← own]
    exact start.map Prod.fst
  · intro inLine
    have count : (places 0 batches).length = chunks.length := by
      rw [Batches.length_places, texts, List.length_map]
    have enough := inLine.length_le
    rw [count, Batches.length_places] at enough
    refine ⟨?_, (placed 0 responses).take chunks.length, List.take_prefix _ _, ?_, ?_⟩
    · rw [map_rowsFor upload before chunks responses.flatten
        (fun row => (row.chunkIndex, row.content)) (fun chunk => (chunk.chunkIndex, chunk.text))
        fun _ _ _ => rfl, List.take_of_length_le enough]
    · rw [map_embedding_rowsFor, List.map_take, Batches.map_snd_placed]
    · rw [List.map_take, ← count]
      exact (List.prefix_iff_eq_take.mp inLine).symm

/-- An ingestion that returns has stored rows for what was prepared. -/
theorem prepared_of_ingest {totalTokens : Nat}
    (returned : pipeline.ingest upload before = .returns totalTokens after) :
    ∃ chunks embeddings, pipeline.prepare upload = some (.ok (chunks, embeddings)) ∧
      after.chunks = before.chunks ++ rowsFor upload before chunks embeddings := by
  rw [ingest_eq] at returned
  cases prepared : pipeline.prepare upload with
  | none =>
      rw [prepared] at returned
      cases returned
  | some outcome =>
      rw [prepared] at returned
      cases outcome with
      | error error => cases returned
      | ok found =>
          rcases found with ⟨chunks, embeddings⟩
          dsimp only at returned
          refine ⟨chunks, embeddings, rfl, ?_⟩
          rcases @store_cases pipeline upload before chunks embeddings with
            ⟨_, stored, _, rows, _⟩ | ⟨_, refused⟩
          · rw [stored] at returned
            cases returned
            exact rows
          · rw [refused] at returned
            cases returned

/-- What is prepared are the chunks of the document, with their embeddings. -/
theorem embedded_of_prepare {embeddings : List Embedding}
    (done : pipeline.prepare upload = some (.ok (chunks, embeddings))) :
    pipeline.chunksOf upload = some chunks ∧
      (chunks ≠ [] → pipeline.embedTexts (chunks.map TextChunk.text) = .ok embeddings) := by
  rcases pipeline.chunked_of_prepare upload done with ⟨pages, produced, extracted, chunked, rfl⟩
  constructor
  · rw [chunksOf, extracted]
    exact congrArg (Option.map pipeline.scrub) chunked
  · intro some
    rw [prepare, extracted] at done
    dsimp only at done
    rw [chunked] at done
    cases produced with
    | nil =>
        have none : pipeline.scrub [] = [] := by simp [scrub]
        exact absurd none some
    | cons chunk rest =>
        have mapped := Option.some.inj done
        cases embedded : pipeline.embedTexts
            ((pipeline.scrub (chunk :: rest)).map TextChunk.text) with
        | error error =>
            rw [embedded] at mapped
            cases mapped
        | ok vectors =>
            rw [embedded] at mapped
            cases mapped
            rfl

/-- Rows without batches have no vectors. -/
theorem not_ownVectors_nil {responses : List (List Embedding)} {rows : List ChunkRow}
    (some : chunks ≠ []) : ¬OwnVectors chunks [] responses rows := by
  rintro ⟨contents, returned, _, vectors, own⟩
  have none : returned = [] := List.map_eq_nil_iff.mp own
  rw [none, List.map_nil, List.map_eq_nil_iff] at vectors
  rw [vectors, List.map_nil] at contents
  exact some (List.map_eq_nil_iff.mp contents.symm)

theorem batches_nil : pipeline.batches [] = [] := by
  unfold batches List.toChunks
  exact ite_self []

/-- An empty document needs no vectors. -/
theorem ownVectors_nil : OwnVectors [] [] [] [] where
  chunks := rfl
  vectors := ⟨[], List.nil_prefix, rfl, rfl⟩

/-- When an ingestion that returns has stored a document with its own vectors. -/
theorem storesOwnVectors_iff {totalTokens : Nat}
    (returned : pipeline.ingest upload before = .returns totalTokens after)
    (found : pipeline.chunksOf upload = some chunks) :
    pipeline.StoresOwnVectors upload before after ↔
      (chunks ≠ [] → 0 < pipeline.config.embeddingBatchSize ∧ ∀ responses,
        pipeline.responses (chunks.map TextChunk.text) = .ok responses →
          Answered (pipeline.batches (chunks.map TextChunk.text)) responses) := by
  rcases pipeline.prepared_of_ingest returned with ⟨prepared, embeddings, done, stored⟩
  rcases pipeline.embedded_of_prepare done with ⟨same, embedded⟩
  rcases Option.some.inj (found.symm.trans same) with rfl
  simp only [StoresOwnVectors, found, Option.some.injEq, forall_eq', stored,
    List.append_cancel_left_eq]
  by_cases empty : chunks = []
  · subst empty
    have none : rowsFor upload before [] embeddings = [] := rowsFor_eq_nil.mpr (.inl rfl)
    refine iff_of_true ⟨[], [], none, ?_, ?_⟩ fun some => absurd rfl some
    · rw [List.map_nil, responses, batches_nil]
      rfl
    · rw [List.map_nil, batches_nil]
      exact ownVectors_nil
  · rcases pipeline.embedTexts_eq_ok (by simpa using empty) (embedded empty) with
      ⟨nonzero, answers, answered, rfl⟩
    simp only [answered, Except.ok.injEq, forall_eq', ne_eq, empty, not_false_eq_true,
      forall_const]
    have rows : (∃ rows responses, rowsFor upload before chunks answers.flatten = rows ∧
        answers = responses ∧ OwnVectors chunks
          (pipeline.batches (chunks.map TextChunk.text)) responses rows) ↔
        OwnVectors chunks (pipeline.batches (chunks.map TextChunk.text)) answers
          (rowsFor upload before chunks answers.flatten) := by
      constructor
      · rintro ⟨_, _, rfl, rfl, own⟩
        exact own
      · intro own
        exact ⟨_, _, rfl, rfl, own⟩
    rw [rows]
    rcases lt_or_gt_of_ne nonzero with negative | positive
    · rw [batches, if_pos negative]
      exact iff_of_false (not_ownVectors_nil empty) fun holds => absurd holds.1 (by omega)
    · have split : pipeline.batches (chunks.map TextChunk.text) =
          (chunks.map TextChunk.text).toChunks pipeline.config.embeddingBatchSize.toNat :=
        if_neg (by omega)
      rw [split, and_iff_right positive]
      exact ownVectors_rowsFor_iff (Batches.flatten_toChunks _ _)
        (Batches.nil_not_mem_toChunks _ _) answers

end Stored

/-- An ingestion that returns has kept the vectors in line exactly when there was nothing to
embed, or the batch size was positive, every batch but the last was answered with one vector
for each text and the last one with at least as many. -/
theorem keepsVectors_iff (before : Storage) :
    pipeline.KeepsVectors upload before ↔
      ((∃ totalTokens after, pipeline.ingest upload before = .returns totalTokens after) →
        ∀ chunks, pipeline.chunksOf upload = some chunks → chunks ≠ [] →
          0 < pipeline.config.embeddingBatchSize ∧ ∀ responses,
            pipeline.responses (chunks.map TextChunk.text) = .ok responses →
              Answered (pipeline.batches (chunks.map TextChunk.text)) responses) := by
  constructor
  · rintro keeps ⟨totalTokens, after, returned⟩ chunks found
    exact (pipeline.storesOwnVectors_iff returned found).mp (keeps totalTokens after returned)
  · intro inLine totalTokens after returned chunks found
    have stores := (pipeline.storesOwnVectors_iff returned found).mpr
      (inLine ⟨totalTokens, after, returned⟩ chunks found)
    exact stores chunks found

end IngestionPipeline

/-! ### A short response -/

/-- A vector of the width of the column. -/
def sampleVector : Embedding := List.replicate 3072 (.finite (1 / 64))

/-- The client answers every batch with one vector. -/
def shortPipeline : IngestionPipeline :=
  { samplePipeline with
    config := { chunkSizeTokens := 1, chunkOverlapTokens := 0, minChunkTokens := 1 }
    process := fun _ _ => .ok [{ text := .ofString "budget approved", pageNumber := 1 }]
    embed := fun _ _ => .ok [sampleVector] }

/-- The second chunk is dropped, and the ingestion returns. -/
theorem not_keepsVectors_of_shortPipeline :
    ¬shortPipeline.KeepsVectors sampleUpload sampleStorage := by
  intro keeps
  obtain ⟨after, returned, one⟩ : ∃ after,
      shortPipeline.ingest sampleUpload sampleStorage = .returns 2 after ∧
        after.chunks.length = 1 := ⟨_, rfl, rfl⟩
  obtain ⟨chunks, found, two⟩ : ∃ chunks,
      shortPipeline.chunksOf sampleUpload = some chunks ∧ chunks.length = 2 := ⟨_, rfl, rfl⟩
  rcases keeps 2 after returned chunks found with ⟨rows, responses, stored, _, own⟩
  have contents := congrArg List.length own.chunks
  rw [List.length_map, List.length_map, two] at contents
  have length := congrArg List.length stored
  rw [List.length_append, one, contents] at length
  omega

end Chitragupt
