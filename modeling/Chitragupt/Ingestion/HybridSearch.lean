import Chitragupt.Ingestion.Storage
import Chitragupt.Lib.Ranking

/-!
# The hybrid search

The SQL function takes the nearest chunks of a tenant in a first query and scores them in a
second one.  Numbers are those of any ordered type with the operations of the score, the
distance of two vectors is any function, and the server returns ties in a fixed order.
-/

namespace Chitragupt

open Python (PyError)

/-- A JSON object from terms to weights. -/
structure TermWeights (R : Type) where
  entries : List (Text × R)
  keys : (entries.map Prod.fst).Nodup

/-- A row of `document_chunks` with the columns that the search reads. -/
structure SearchChunk (R : Type) where
  chunkId : ChunkId
  documentId : Uuid
  workspaceId : Uuid
  projectId : Uuid
  content : Text
  embedding : Embedding
  sparseVector : Option (TermWeights R)
  sectionTitle : Option Text
  pageNumber : Option Int
  sourceType : Text := .ofString "pdf"
  trustTier : Int := 3
  isActive : Bool := true
  validUntil : Option DateTime := none

structure ChunkTable (R : Type) where
  rows : List (SearchChunk R)
  chunkIds : (rows.map SearchChunk.chunkId).Nodup

/-- The parameters of a search. -/
structure SearchQuery (R : Type) where
  embedding : Embedding
  bm25Tokens : TermWeights R
  workspaceId : Uuid
  projectId : Uuid
  denseW : R
  sparseW : R
  topK : Int := 20

structure SearchResult (R : Type) where
  chunkId : ChunkId
  documentId : Uuid
  content : Text
  sectionTitle : Option Text
  pageNumber : Option Int
  trustTier : Int
  sourceType : Text
  score : R

/-- The server: the cosine distance, the clock, and the orders of equal distances and equal
scores. -/
structure SearchServer (R : Type) where
  distance : Embedding → Embedding → R
  now : DateTime
  distanceTies : TieOrder ChunkId
  scoreTies : TieOrder ChunkId

namespace SearchChunk

variable {R : Type} (chunk : SearchChunk R)

def inScope (query : SearchQuery R) : Bool :=
  chunk.workspaceId = query.workspaceId && chunk.projectId = query.projectId

def unexpired (now : DateTime) : Bool :=
  match chunk.validUntil with
  | none => true
  | some validUntil => now < validUntil

end SearchChunk

namespace HybridSearch

variable {R : Type}

/-- The chunks that a tenant's search looks at. -/
def scope (query : SearchQuery R) (rows : List (SearchChunk R)) : List (SearchChunk R) :=
  rows.filter (·.inScope query)

/-- Rows that agree on a tenant agree on what is filtered out of its chunks. -/
theorem filter_perm_of_scope {query : SearchQuery R} {rows rows' : List (SearchChunk R)}
    (same : (scope query rows).Perm (scope query rows')) (keep : SearchChunk R → Bool) :
    (rows.filter fun chunk => chunk.inScope query && keep chunk).Perm
      (rows'.filter fun chunk => chunk.inScope query && keep chunk) := by
  have filtered := same.filter keep
  rw [scope, scope, List.filter_filter, List.filter_filter] at filtered
  simpa only [Bool.and_comm] using filtered

theorem chunkIds_filter (table : ChunkTable R) (keep : SearchChunk R → Bool) :
    ((table.rows.filter keep).map SearchChunk.chunkId).Nodup :=
  (List.filter_sublist.map _).nodup table.chunkIds

/-! ## The candidates -/

section Candidates

variable [LinearOrder R] (server : SearchServer R) (query : SearchQuery R)

/-- The first query: the nearest chunks of the tenant. -/
def candidateIds (rows : List (SearchChunk R)) : List ChunkId :=
  let nearest := Ranking.first server.distanceTies SearchChunk.chunkId
    (fun chunk => server.distance chunk.embedding query.embedding) 50
    (rows.filter fun chunk =>
      chunk.inScope query && (chunk.isActive && chunk.unexpired server.now))
  nearest.map SearchChunk.chunkId

theorem length_candidateIds (rows : List (SearchChunk R)) :
    (candidateIds server query rows).length ≤ 50 := by
  rw [candidateIds, List.length_map, Ranking.length_first]
  exact min_le_left _ _

variable {server} {query}

/-- Every candidate is the identifier of an active, unexpired chunk of the tenant. -/
theorem exists_of_mem_candidateIds {rows : List (SearchChunk R)} {chunkId : ChunkId}
    (member : chunkId ∈ candidateIds server query rows) :
    ∃ chunk ∈ rows, chunk.chunkId = chunkId ∧ chunk.inScope query = true ∧
      chunk.isActive = true ∧ chunk.unexpired server.now = true := by
  obtain ⟨chunk, nearest, same⟩ := List.mem_map.mp member
  obtain ⟨row, kept⟩ := List.mem_filter.mp (Ranking.mem_of_mem_first _ _ _ nearest)
  rw [Bool.and_eq_true, Bool.and_eq_true] at kept
  exact ⟨chunk, row, same, kept⟩

/-- A chunk with the identifier of a candidate is that candidate. -/
theorem unexpired_of_mem_candidateIds {table : ChunkTable R} {chunk : SearchChunk R}
    (member : chunk ∈ table.rows)
    (candidate : chunk.chunkId ∈ candidateIds server query table.rows) :
    chunk.unexpired server.now = true := by
  obtain ⟨nearest, nearestMember, same, _, _, unexpired⟩ := exists_of_mem_candidateIds candidate
  have sameRow := List.inj_on_of_nodup_map table.chunkIds nearestMember member same
  exact sameRow ▸ unexpired

theorem candidateIds_eq_of_scope {table other : ChunkTable R}
    (same : (scope query table.rows).Perm (scope query other.rows)) :
    candidateIds server query table.rows = candidateIds server query other.rows := by
  rw [candidateIds, candidateIds]
  exact congrArg (List.map _) (Ranking.first_eq_of_perm _ _ _ (filter_perm_of_scope same _)
    (chunkIds_filter table _))

end Candidates

/-! ## The scores -/

section Scores

variable [Zero R] [One R] [Add R] [Sub R] [Mul R]

/-- `SUM`, which is null without a row. -/
def sum : List R → Option R
  | [] => none
  | value :: values => some (values.foldl (· + ·) value)

/-- The products of the weights of each term that the chunk has, too, added up. -/
def sparseTerm (tokens : TermWeights R) (sparseVector : Option (TermWeights R)) : R :=
  let products := tokens.entries.filterMap fun (key, weight) =>
    (sparseVector.bind (·.entries.lookup key)).map (weight * ·)
  (sum products).getD 0

variable (server : SearchServer R) (query : SearchQuery R)

def score (chunk : SearchChunk R) : R :=
  query.denseW * (1 - server.distance chunk.embedding query.embedding) +
    query.sparseW * sparseTerm query.bm25Tokens chunk.sparseVector

def result (chunk : SearchChunk R) : SearchResult R where
  chunkId := chunk.chunkId
  documentId := chunk.documentId
  content := chunk.content
  sectionTitle := chunk.sectionTitle
  pageNumber := chunk.pageNumber
  trustTier := chunk.trustTier
  sourceType := chunk.sourceType
  score := score server query chunk

/-- The second query, which scores the candidates. -/
def scored (rows : List (SearchChunk R)) (candidateIds : List ChunkId) :
    List (SearchResult R) :=
  (rows.filter fun chunk =>
    chunk.inScope query && (candidateIds.contains chunk.chunkId && chunk.isActive)).map
      (result server query)

theorem chunkIds_scored (table : ChunkTable R) (ids : List ChunkId) :
    ((scored server query table.rows ids).map SearchResult.chunkId).Nodup := by
  rw [scored, List.map_map]
  exact chunkIds_filter table _

/-- A scored row stems from an active candidate of the tenant. -/
theorem exists_of_mem_scored {rows : List (SearchChunk R)} {ids : List ChunkId}
    {row : SearchResult R} (member : row ∈ scored server query rows ids) :
    ∃ chunk ∈ rows, row = result server query chunk ∧ chunk.inScope query = true ∧
      chunk.chunkId ∈ ids ∧ chunk.isActive = true := by
  obtain ⟨chunk, kept, rfl⟩ := List.mem_map.mp member
  obtain ⟨rowMember, kept⟩ := List.mem_filter.mp kept
  rw [Bool.and_eq_true, Bool.and_eq_true, List.contains_iff_mem] at kept
  exact ⟨chunk, rowMember, rfl, kept⟩

/-- There are no more scored rows than candidates. -/
theorem length_scored_le (table : ChunkTable R) (ids : List ChunkId) :
    (scored server query table.rows ids).length ≤ ids.length := by
  have subset : (scored server query table.rows ids).map SearchResult.chunkId ⊆ ids := by
    intro chunkId member
    obtain ⟨row, scoredMember, rfl⟩ := List.mem_map.mp member
    obtain ⟨chunk, _, rfl, _, candidate, _⟩ := exists_of_mem_scored _ _ scoredMember
    exact candidate
  have bound := List.subperm_of_subset (chunkIds_scored server query table ids) subset
  simpa only [List.length_map] using bound.length_le

theorem scored_perm_of_scope {rows rows' : List (SearchChunk R)}
    (same : (scope query rows).Perm (scope query rows')) (ids : List ChunkId) :
    (scored server query rows ids).Perm (scored server query rows' ids) :=
  (filter_perm_of_scope same _).map _

end Scores

/-! ## The search -/

variable [LinearOrder R] [Zero R] [One R] [Add R] [Sub R] [Mul R]

def search (server : SearchServer R) (query : SearchQuery R) (table : ChunkTable R) :
    Except PyError (List (SearchResult R)) :=
  let candidateIds := candidateIds server query table.rows
  if query.topK < 0 then
    .error ⟨.other "InvalidRowCountInLimitClauseError", "LIMIT must not be negative"⟩
  else
    .ok (Ranking.first server.scoreTies SearchResult.chunkId
      (fun result => OrderDual.toDual result.score) query.topK.toNat
      (scored server query table.rows candidateIds))

variable {server : SearchServer R} {query : SearchQuery R}

theorem search_of_nonneg (nonneg : 0 ≤ query.topK) (table : ChunkTable R) :
    search server query table =
      .ok (Ranking.first server.scoreTies SearchResult.chunkId
        (fun result => OrderDual.toDual result.score) query.topK.toNat
        (scored server query table.rows (candidateIds server query table.rows))) :=
  if_neg (not_lt.mpr nonneg)

/-- A search returns active, unexpired chunks of its tenant, none of them twice, at most as
many as asked for and at most fifty, and the best ones first.  Tables that agree on the chunks
of the tenant give the same result. -/
theorem search_tenant (server : SearchServer R) {query : SearchQuery R}
    (nonneg : 0 ≤ query.topK) (table : ChunkTable R) :
    ∃ results, search server query table = .ok results ∧
      (∀ row ∈ results, ∃ chunk ∈ table.rows, row = result server query chunk ∧
        chunk.workspaceId = query.workspaceId ∧ chunk.projectId = query.projectId ∧
        chunk.isActive = true ∧
        ∀ validUntil, chunk.validUntil = some validUntil → server.now < validUntil) ∧
      (results.map SearchResult.chunkId).Nodup ∧
      (results.length : Int) ≤ min query.topK 50 ∧
      results.Pairwise (fun earlier later => later.score ≤ earlier.score) ∧
      ∀ other : ChunkTable R, (scope query table.rows).Perm (scope query other.rows) →
        search server query other = .ok results := by
  refine ⟨_, search_of_nonneg nonneg table, ?_, ?_, ?_, ?_, ?_⟩
  · intro row member
    obtain ⟨chunk, rowMember, same, inScope, candidate, active⟩ :=
      exists_of_mem_scored _ _ (Ranking.mem_of_mem_first _ _ _ member)
    have unexpired := unexpired_of_mem_candidateIds rowMember candidate
    rw [SearchChunk.inScope, Bool.and_eq_true, decide_eq_true_eq, decide_eq_true_eq] at inScope
    refine ⟨chunk, rowMember, same, inScope.1, inScope.2, active, ?_⟩
    intro validUntil limited
    rw [SearchChunk.unexpired, limited] at unexpired
    exact of_decide_eq_true unexpired
  · exact Ranking.nodup_first _ _ _ (chunkIds_scored server query table _)
  · have candidates := length_candidateIds server query table.rows
    have rows := length_scored_le server query table (candidateIds server query table.rows)
    rw [Ranking.length_first]
    omega
  · exact Ranking.pairwise_first server.scoreTies SearchResult.chunkId
      (fun result => OrderDual.toDual result.score) _ _
  · intro other same
    rw [search_of_nonneg nonneg other, ← candidateIds_eq_of_scope same]
    exact congrArg _ (Ranking.first_eq_of_perm _ _ _ (scored_perm_of_scope server query same _)
      (chunkIds_scored server query table _)).symm

/-! ### Two tenants with a chunk each -/

def sampleServer : SearchServer ℚ where
  distance _ _ := 0
  now := 1700000000000000000
  distanceTies := .ofOrder ChunkId
  scoreTies := .ofOrder ChunkId

def sampleSearch : SearchQuery ℚ where
  embedding := []
  bm25Tokens := ⟨[], List.nodup_nil⟩
  workspaceId := 0xA1
  projectId := 0xB1
  denseW := 7 / 10
  sparseW := 3 / 10

/-- A chunk of the workspace. -/
def sampleChunk (chunkId : ChunkId) (workspaceId : Uuid) : SearchChunk ℚ where
  chunkId
  documentId := 0xD1
  workspaceId
  projectId := 0xB1
  content := .ofString "budget approved"
  embedding := []
  sparseVector := none
  sectionTitle := none
  pageNumber := some 1

def sampleTable : ChunkTable ℚ where
  rows := [sampleChunk 1 0xA1, sampleChunk 2 0xA2]
  chunkIds := by decide

theorem search_tenant_sampleTable :
    ∃ results, search sampleServer sampleSearch sampleTable = .ok results ∧
      results.length ≤ 20 ∧ ∀ row ∈ results, row.chunkId = 1 := by
  obtain ⟨results, found, rows, _, bound, _⟩ :=
    search_tenant sampleServer (show 0 ≤ sampleSearch.topK by decide) sampleTable
  refine ⟨results, found, ?_, ?_⟩
  · have most : (results.length : Int) ≤ 20 := bound.trans (min_le_left _ _)
    exact_mod_cast most
  · intro row member
    obtain ⟨chunk, stored, rfl, workspace, _⟩ := rows row member
    rcases List.mem_pair.mp stored with rfl | rfl
    next => rfl
    next => exact absurd workspace (by decide)

end HybridSearch

end Chitragupt
