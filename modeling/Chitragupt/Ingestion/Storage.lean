import Chitragupt.Lib.ExactFloat
import Chitragupt.Lib.Python
import Chitragupt.Lib.Text
import Chitragupt.StateMachine.Session
import Mathlib.Algebra.Order.BigOperators.Group.List
import Mathlib.Data.List.Nodup

/-!
# Documents and their chunks

The two tables of the ingestion service with the constraints of their migrations: the
primary keys, the unique pair of content hash and project, and the reference from each
chunk to its document.  Tables that violate a constraint cannot be built.
-/

namespace Chitragupt

open Python (PyError)

/-- The values that the table admits as a status. -/
inductive DocumentStatus where
  | pending
  | processing
  | indexed
  | failed
  | tombstoned
  deriving DecidableEq, Repr

structure DocumentRow where
  documentId : Uuid
  workspaceId : Uuid
  projectId : Uuid
  sessionId : Uuid
  filename : String
  fileHash : String
  r2Key : String
  status : DocumentStatus
  tokenCount : Option Nat := none
  errorMessage : Option String := none

/-- The unique pair of a document. -/
def DocumentRow.contentKey (row : DocumentRow) : String × Uuid :=
  (row.fileHash, row.projectId)

/-- The identifiers that are drawn for chunks; all that matters is which of them agree. -/
abbrev ChunkId : Type := Nat

abbrev Embedding : Type := List ExactFloat

structure ChunkRow where
  chunkId : ChunkId
  documentId : Uuid
  workspaceId : Uuid
  projectId : Uuid
  content : Text
  embedding : Embedding
  sparseVector : List (Text × ℚ)
  chunkIndex : Nat
  tokenCount : Nat
  sectionTitle : Option Text
  pageNumber : Option Int
  isActive : Bool := true

@[ext] structure Storage where
  documents : List DocumentRow
  chunks : List ChunkRow
  documentIds : (documents.map DocumentRow.documentId).Nodup
  contentKeys : (documents.map DocumentRow.contentKey).Nodup
  chunkIds : (chunks.map ChunkRow.chunkId).Nodup
  references : ∀ chunk ∈ chunks, chunk.documentId ∈ documents.map DocumentRow.documentId

namespace Storage

def empty : Storage where
  documents := []
  chunks := []
  documentIds := List.nodup_nil
  contentKeys := List.nodup_nil
  chunkIds := List.nodup_nil
  references := nofun

def uniqueViolation (constraint : String) : PyError :=
  ⟨.other "UniqueViolationError",
    s!"duplicate key value violates unique constraint \"{constraint}\""⟩

def foreignKeyViolation : PyError :=
  ⟨.other "ForeignKeyViolationError",
    "insert or update on table \"document_chunks\" violates foreign key constraint \"document_chunks_document_id_fkey\""⟩

theorem nodup_map_concat {α β : Type} {view : α → β} {items : List α} {item : α}
    (distinct : (items.map view).Nodup) (new : view item ∉ items.map view) :
    ((items ++ [item]).map view).Nodup := by
  rw [List.map_append, List.map_singleton, ← List.concat_eq_append]
  exact distinct.concat new

/-! ## Statements -/

/-- Insert a document.  A row with the same content in the same project makes the statement
do nothing; only then the primary key is looked at. -/
def insertDocument (storage : Storage) (row : DocumentRow) : Except PyError Storage :=
  if newContent : row.contentKey ∈ storage.documents.map DocumentRow.contentKey then
    .ok storage
  else if newId : row.documentId ∈ storage.documents.map DocumentRow.documentId then
    .error (uniqueViolation "documents_pkey")
  else
    .ok
      { storage with
        documents := storage.documents ++ [row]
        documentIds := nodup_map_concat storage.documentIds newId
        contentKeys := nodup_map_concat storage.contentKeys newContent
        references := by
          intro chunk member
          rw [List.map_append]
          exact List.mem_append_left _ (storage.references chunk member) }

/-- A view that a change keeps is kept by changing the rows of one document. -/
theorem map_changed {β : Type} {view : DocumentRow → β} {change : DocumentRow → DocumentRow}
    (same : ∀ row, view (change row) = view row) (documentId : Uuid)
    (rows : List DocumentRow) :
    (rows.map fun row => if row.documentId = documentId then change row else row).map view =
      rows.map view := by
  rw [List.map_map]
  apply List.map_congr_left
  intro row _
  dsimp only [Function.comp_apply]
  split
  · exact same row
  · rfl

/-- Change the rows of one document without touching its keys. -/
def updateDocument (storage : Storage) (documentId : Uuid) (change : DocumentRow → DocumentRow)
    (sameId : ∀ row, (change row).documentId = row.documentId)
    (sameKey : ∀ row, (change row).contentKey = row.contentKey) : Storage :=
  { storage with
    documents := storage.documents.map fun row =>
      if row.documentId = documentId then change row else row
    documentIds := (map_changed sameId documentId _).symm ▸ storage.documentIds
    contentKeys := (map_changed sameKey documentId _).symm ▸ storage.contentKeys
    references := (map_changed sameId documentId _).symm ▸ storage.references }

/-- A new chunk of a known document. -/
def appendChunk (storage : Storage) (row : ChunkRow)
    (newId : row.chunkId ∉ storage.chunks.map ChunkRow.chunkId)
    (known : row.documentId ∈ storage.documents.map DocumentRow.documentId) : Storage :=
  { storage with
    chunks := storage.chunks ++ [row]
    chunkIds := nodup_map_concat storage.chunkIds newId
    references := by
      intro chunk member
      rcases List.mem_append.mp member with old | new
      · exact storage.references chunk old
      · rw [List.mem_singleton.mp new]
        exact known }

/-- Insert a chunk, unless its identifier is taken. -/
def insertChunk (storage : Storage) (row : ChunkRow) : Except PyError Storage :=
  if newId : row.chunkId ∈ storage.chunks.map ChunkRow.chunkId then .ok storage
  else if known : row.documentId ∈ storage.documents.map DocumentRow.documentId then
    .ok (storage.appendChunk row newId known)
  else .error foreignKeyViolation

/-- Insert all chunks or none. -/
def insertChunks (storage : Storage) (rows : List ChunkRow) : Except PyError Storage :=
  rows.foldlM insertChunk storage

/-- Random identifiers.  They are new to the table and to each other. -/
def drawChunkIds (storage : Storage) (count : Nat) : List ChunkId :=
  (List.range count).map ((storage.chunks.map ChunkRow.chunkId).sum + 1 + ·)

/-- The row of a document. -/
def document (storage : Storage) (documentId : Uuid) : Option DocumentRow :=
  storage.documents.find? (·.documentId = documentId)

/-- The status of a document. -/
def status (storage : Storage) (documentId : Uuid) : Option DocumentStatus :=
  (storage.documents.find? (·.documentId = documentId)).map DocumentRow.status

/-! ## What the statements write -/

variable {storage after : Storage}

theorem length_drawChunkIds (count : Nat) : (storage.drawChunkIds count).length = count := by
  simp [drawChunkIds]

theorem nodup_drawChunkIds (count : Nat) : (storage.drawChunkIds count).Nodup :=
  List.Nodup.map (add_right_injective _) List.nodup_range

theorem not_mem_of_mem_drawChunkIds (count : Nat) {id : ChunkId}
    (drawn : id ∈ storage.drawChunkIds count) :
    id ∉ storage.chunks.map ChunkRow.chunkId := by
  intro taken
  rcases List.mem_map.mp drawn with ⟨offset, _, rfl⟩
  have bound := List.single_le_sum (fun _ _ => Nat.zero_le _) _ taken
  omega

/-- Rows with new identifiers of a known document are appended. -/
theorem insertChunks_eq_ok (rows : List ChunkRow)
    (distinct : (rows.map ChunkRow.chunkId).Nodup)
    (new : ∀ row ∈ rows, row.chunkId ∉ storage.chunks.map ChunkRow.chunkId)
    (known : ∀ row ∈ rows, row.documentId ∈ storage.documents.map DocumentRow.documentId) :
    ∃ after, storage.insertChunks rows = .ok after ∧ after.documents = storage.documents ∧
      after.chunks = storage.chunks ++ rows := by
  induction rows generalizing storage with
  | nil => exact ⟨storage, rfl, rfl, (List.append_nil _).symm⟩
  | cons row rows ih =>
      have fresh := new row List.mem_cons_self
      have parent := known row List.mem_cons_self
      rw [List.map_cons, List.nodup_cons] at distinct
      rw [insertChunks, List.foldlM_cons, insertChunk, dif_neg fresh, dif_pos parent]
      have later : ∀ other ∈ rows, other.chunkId ∉
          (storage.appendChunk row fresh parent).chunks.map ChunkRow.chunkId := by
        intro other member taken
        rw [appendChunk, List.map_append, List.mem_append, List.map_singleton,
          List.mem_singleton] at taken
        rcases taken with old | same
        · exact new other (List.mem_cons_of_mem _ member) old
        · exact distinct.1 (same ▸ List.mem_map_of_mem member)
      rcases ih distinct.2 later fun other member => known other (List.mem_cons_of_mem _ member)
        with ⟨after, inserted, documents, chunks⟩
      refine ⟨after, inserted, documents, ?_⟩
      rw [chunks, appendChunk, List.append_assoc, List.singleton_append]

/-- An accepted document is new, or its content is there already. -/
theorem insertDocument_cases {row : DocumentRow}
    (inserted : storage.insertDocument row = .ok after) :
    (row.contentKey ∈ storage.documents.map DocumentRow.contentKey ∧ after = storage) ∨
      (row.contentKey ∉ storage.documents.map DocumentRow.contentKey ∧
        after.documents = storage.documents ++ [row] ∧ after.chunks = storage.chunks) := by
  rw [insertDocument] at inserted
  split at inserted
  next known =>
    rcases Except.ok.inj inserted with rfl
    exact .inl ⟨known, rfl⟩
  next new =>
    split at inserted
    · cases inserted
    · rcases Except.ok.inj inserted with rfl
      exact .inr ⟨new, rfl, rfl⟩

/-- A document with a new content and a new identifier is inserted. -/
theorem insertDocument_new {row : DocumentRow}
    (newContent : row.contentKey ∉ storage.documents.map DocumentRow.contentKey)
    (newId : row.documentId ∉ storage.documents.map DocumentRow.documentId) :
    ∃ after, storage.insertDocument row = .ok after ∧
      after.documents = storage.documents ++ [row] := by
  rw [insertDocument, dif_neg newContent, dif_neg newId]
  exact ⟨_, rfl, rfl⟩

/-- New rows of an unknown document are refused. -/
theorem insertChunks_eq_error {row : ChunkRow} {rows : List ChunkRow}
    (new : row.chunkId ∉ storage.chunks.map ChunkRow.chunkId)
    (unknown : row.documentId ∉ storage.documents.map DocumentRow.documentId) :
    storage.insertChunks (row :: rows) = .error foreignKeyViolation := by
  rw [insertChunks, List.foldlM_cons, insertChunk, dif_neg new, dif_neg unknown]
  rfl

theorem mem_of_document {documentId : Uuid} {row : DocumentRow}
    (found : storage.document documentId = some row) :
    row ∈ storage.documents ∧ row.documentId = documentId := by
  constructor
  · exact List.mem_of_find?_eq_some found
  · simpa using List.find?_some found

theorem document_eq_none {documentId : Uuid} :
    storage.document documentId = none ↔
      documentId ∉ storage.documents.map DocumentRow.documentId := by
  rw [document, List.find?_eq_none, List.mem_map, not_exists]
  apply forall_congr'
  intro row
  simp

/-- New documents hide none that are there. -/
theorem document_append {documentId : Uuid} {row : DocumentRow} {rows : List DocumentRow}
    (found : storage.document documentId = some row)
    (documents : after.documents = storage.documents ++ rows) :
    after.document documentId = some row := by
  rw [document] at found ⊢
  rw [documents, List.find?_append, found]
  rfl

theorem mem_of_status {documentId : Uuid}
    (found : ∃ status, storage.status documentId = some status) :
    documentId ∈ storage.documents.map DocumentRow.documentId := by
  rcases found with ⟨status, same⟩
  rcases Option.map_eq_some_iff.mp same with ⟨row, search, _⟩
  rcases mem_of_document search with ⟨listed, agrees⟩
  exact List.mem_map.mpr ⟨row, listed, agrees⟩

section Update

variable {documentId : Uuid} {change : DocumentRow → DocumentRow}
  {sameId : ∀ row, (change row).documentId = row.documentId}
  {sameKey : ∀ row, (change row).contentKey = row.contentKey}

theorem documentIds_updateDocument :
    (storage.updateDocument documentId change sameId sameKey).documents.map
      DocumentRow.documentId = storage.documents.map DocumentRow.documentId :=
  map_changed sameId documentId _

/-- Every row of a changed table has the keys of some row before. -/
theorem exists_of_mem_updateDocument {row : DocumentRow}
    (member : row ∈ (storage.updateDocument documentId change sameId sameKey).documents) :
    ∃ old ∈ storage.documents, old.documentId = row.documentId ∧
      old.contentKey = row.contentKey := by
  rcases List.mem_map.mp member with ⟨old, listed, rfl⟩
  refine ⟨old, listed, ?_⟩
  split
  · exact ⟨(sameId old).symm, (sameKey old).symm⟩
  · exact ⟨rfl, rfl⟩

/-- A change reaches the row of its own document only. -/
theorem document_updateDocument (other : Uuid) :
    (storage.updateDocument documentId change sameId sameKey).document other =
      (storage.document other).map fun row =>
        if row.documentId = documentId then change row else row := by
  rw [document, updateDocument, List.find?_map]
  have kept : ((fun row : DocumentRow => decide (row.documentId = other)) ∘ fun row =>
      if row.documentId = documentId then change row else row) =
        fun row => decide (row.documentId = other) := by
    funext row
    dsimp only [Function.comp_apply]
    split
    · rw [sameId]
    · rfl
  rw [kept]
  rfl

theorem document_updateDocument_self {row : DocumentRow}
    (found : storage.document documentId = some row) :
    (storage.updateDocument documentId change sameId sameKey).document documentId =
      some (change row) := by
  rw [document_updateDocument, found, Option.map_some, if_pos (mem_of_document found).2]

theorem document_updateDocument_of_ne {other : Uuid} (different : other ≠ documentId) :
    (storage.updateDocument documentId change sameId sameKey).document other =
      storage.document other := by
  rw [document_updateDocument]
  cases found : storage.document other with
  | none => rfl
  | some row =>
      have own : row.documentId ≠ documentId := (mem_of_document found).2 ▸ different
      rw [Option.map_some, if_neg own]

/-- A change of an unknown document writes nothing. -/
theorem updateDocument_eq_self
    (unknown : documentId ∉ storage.documents.map DocumentRow.documentId) :
    storage.updateDocument documentId change sameId sameKey = storage := by
  apply Storage.ext
  · rw [updateDocument]
    apply (List.map_congr_left _).trans (List.map_id _)
    intro row member
    dsimp only [id_eq]
    split
    next same => exact absurd (List.mem_map.mpr ⟨row, member, same⟩) unknown
    next => rfl
  · rfl

/-- The status that a change writes into every row is the status of the document, when the
document has a row. -/
theorem status_updateDocument {status : DocumentStatus}
    (writes : ∀ row, (change row).status = status) :
    (storage.updateDocument documentId change sameId sameKey).status documentId =
      if documentId ∈ storage.documents.map DocumentRow.documentId then some status
      else none := by
  change Option.map _ (Storage.document _ _) = _
  cases found : storage.document documentId with
  | none =>
      have unknown := document_eq_none.mp found
      rw [updateDocument_eq_self unknown, found, if_neg unknown]
      rfl
  | some row =>
      rcases mem_of_document found with ⟨listed, same⟩
      rw [document_updateDocument_self found, if_pos (List.mem_map.mpr ⟨row, listed, same⟩),
        Option.map_some, writes]

end Update

end Storage

end Chitragupt
