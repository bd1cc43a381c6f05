import Chitragupt.Ingestion.HybridSearch
import Chitragupt.Ingestion.Pipeline
import Mathlib.Tactic.Linarith
import Mathlib.Tactic.FieldSimp
import Mathlib.Algebra.Order.Field.Basic
import Mathlib.Algebra.Order.BigOperators.Group.List

/-!
# Sparse vectors and their scores

The weights of a sparse vector are the relative frequencies of its terms.  Their products
with the weights of a query add up to at most one, which bounds the score of a chunk.
-/

namespace Chitragupt

/-! ## Counted terms -/

/-- The table counts the terms, each under its own key. -/
structure Counted (terms : List Text) (freq : List (Text × Nat)) : Prop where
  keys : (freq.map Prod.fst).Nodup
  mem : ∀ term count, (term, count) ∈ freq ↔ term ∈ terms ∧ count = terms.count term
  total : (freq.map Prod.snd).sum = terms.length

theorem map_fst_countTerm (term : Text) (freq : List (Text × Nat)) :
    (countTerm term freq).map Prod.fst =
      if term ∈ freq.map Prod.fst then freq.map Prod.fst else freq.map Prod.fst ++ [term] := by
  induction freq with
  | nil => rfl
  | cons entry freq ih =>
      obtain ⟨other, count⟩ := entry
      rw [countTerm]
      by_cases same : other = term
      · simp [same]
      · rw [if_neg same, List.map_cons, ih, List.map_cons]
        simp only [List.mem_cons, Ne.symm same, false_or]
        split <;> rfl

theorem sum_countTerm (term : Text) (freq : List (Text × Nat)) :
    ((countTerm term freq).map Prod.snd).sum = (freq.map Prod.snd).sum + 1 := by
  induction freq with
  | nil => rfl
  | cons entry freq ih =>
      obtain ⟨other, count⟩ := entry
      rw [countTerm]
      by_cases same : other = term
      · simp only [if_pos same, List.map_cons, List.sum_cons]
        omega
      · simp only [if_neg same, List.map_cons, List.sum_cons, ih]
        omega

/-- The other terms keep their counts; the term itself gets one more. -/
theorem mem_countTerm {term key : Text} {count : Nat} {freq : List (Text × Nat)}
    (keys : (freq.map Prod.fst).Nodup) :
    (key, count) ∈ countTerm term freq ↔
      if key = term then
        (∃ before, (term, before) ∈ freq ∧ count = before + 1) ∨
          term ∉ freq.map Prod.fst ∧ count = 1
      else (key, count) ∈ freq := by
  induction freq with
  | nil => by_cases same : key = term <;> simp [countTerm, same]
  | cons entry freq ih =>
      obtain ⟨other, before⟩ := entry
      rw [List.map_cons, List.nodup_cons] at keys
      have ih := ih keys.2
      rw [countTerm]
      by_cases found : other = term
      · subst found
        rw [if_pos rfl, List.mem_cons]
        have absent (count : Nat) : (other, count) ∉ freq := fun member =>
          keys.1 (List.mem_map.mpr ⟨_, member, rfl⟩)
        by_cases same : key = other
        · subst same
          simp [absent]
        · simp [same]
      · rw [if_neg found, List.mem_cons, ih]
        by_cases same : key = term
        · subst same
          simp [Ne.symm found]
        · simp [same]

namespace Counted

theorem nil : Counted [] [] where
  keys := List.nodup_nil
  mem := by simp
  total := rfl

theorem mem_keys {terms : List Text} {freq : List (Text × Nat)} (counted : Counted terms freq)
    (term : Text) : term ∈ freq.map Prod.fst ↔ term ∈ terms := by
  rw [List.mem_map]
  constructor
  · rintro ⟨⟨_, count⟩, member, rfl⟩
    exact ((counted.mem _ count).mp member).1
  · intro member
    exact ⟨(term, terms.count term), (counted.mem _ _).mpr ⟨member, rfl⟩, rfl⟩

/-- One more term is counted. -/
theorem countTerm {terms : List Text} {freq : List (Text × Nat)} (counted : Counted terms freq)
    (term : Text) : Counted (terms ++ [term]) (countTerm term freq) where
  keys := by
    rw [map_fst_countTerm]
    split
    next => exact counted.keys
    next absent =>
      rw [← List.concat_eq_append]
      exact counted.keys.concat absent
  mem := by
    intro key count
    rw [mem_countTerm counted.keys, List.count_append, List.mem_append, List.mem_singleton]
    by_cases same : key = term
    · subst same
      rw [if_pos rfl, counted.mem_keys]
      simp only [counted.mem, List.count_singleton_self, or_true, true_and]
      constructor
      · rintro (⟨before, ⟨_, rfl⟩, rfl⟩ | ⟨absent, rfl⟩)
        · rfl
        · rw [List.count_eq_zero_of_not_mem absent]
      · rintro rfl
        by_cases member : key ∈ terms
        · exact .inl ⟨_, ⟨member, rfl⟩, rfl⟩
        · exact .inr ⟨member, by rw [List.count_eq_zero_of_not_mem member]⟩
    · rw [if_neg same, counted.mem, List.count_singleton]
      simp [same, Ne.symm same]
  total := by rw [sum_countTerm, counted.total, List.length_append, List.length_singleton]

theorem foldl {terms : List Text} {freq : List (Text × Nat)} (counted : Counted terms freq)
    (tokens : List Text) :
    Counted (terms ++ tokens.map Text.lower)
      (tokens.foldl (fun freq token => Chitragupt.countTerm (Text.lower token) freq) freq) := by
  induction tokens generalizing terms freq with
  | nil => simpa using counted
  | cons token tokens ih =>
      have rest := ih (counted.countTerm (Text.lower token))
      rw [List.append_assoc] at rest
      exact rest

end Counted

/-! ## Weights -/

/-- The weights are the relative frequencies of the terms. -/
structure RelativeFrequencies (terms : List Text) (weights : List (Text × ℚ)) : Prop where
  positive : ∀ entry ∈ weights, 0 < entry.2
  keys : (weights.map Prod.fst).Nodup
  mem_keys : ∀ term, term ∈ weights.map Prod.fst ↔ term ∈ terms
  weight : ∀ entry ∈ weights, entry.2 = terms.count entry.1 / terms.length
  sum : terms ≠ [] → (weights.map Prod.snd).sum = 1

theorem relativeFrequencies_nil {weights : List (Text × ℚ)}
    (frequencies : RelativeFrequencies [] weights) : weights = [] := by
  rw [← List.map_eq_nil_iff (f := Prod.fst), List.eq_nil_iff_forall_not_mem]
  intro term member
  cases (frequencies.mem_keys term).mp member

namespace RelativeFrequencies

variable {terms terms' : List Text} {weights weights' : List (Text × ℚ)}

theorem nonneg (frequencies : RelativeFrequencies terms weights) :
    ∀ entry ∈ weights, 0 ≤ entry.2 :=
  fun entry member => (frequencies.positive entry member).le

theorem sum_le (frequencies : RelativeFrequencies terms weights) :
    (weights.map Prod.snd).sum ≤ 1 := by
  by_cases empty : terms = []
  · subst empty
    rw [relativeFrequencies_nil frequencies]
    exact zero_le_one
  · exact (frequencies.sum empty).le

theorem le_one (frequencies : RelativeFrequencies terms weights) :
    ∀ entry ∈ weights, entry.2 ≤ 1 := by
  intro entry member
  have nonneg : ∀ weight ∈ weights.map Prod.snd, 0 ≤ weight :=
    List.forall_mem_map.mpr frequencies.nonneg
  exact (List.single_le_sum nonneg _ (List.mem_map_of_mem member)).trans frequencies.sum_le

/-- An entry is known by its term. -/
theorem mem_iff (frequencies : RelativeFrequencies terms weights) (entry : Text × ℚ) :
    entry ∈ weights ↔ entry.1 ∈ terms ∧ entry.2 = terms.count entry.1 / terms.length := by
  constructor
  · intro member
    exact ⟨(frequencies.mem_keys _).mp (List.mem_map_of_mem member),
      frequencies.weight entry member⟩
  · rintro ⟨term, weight⟩
    obtain ⟨other, member, same⟩ := List.mem_map.mp ((frequencies.mem_keys _).mpr term)
    have sameWeight : other.2 = entry.2 := by
      rw [frequencies.weight other member, same, weight]
    exact Prod.ext same sameWeight ▸ member

/-- The same terms, each as often, have the same weights. -/
theorem perm (frequencies : RelativeFrequencies terms weights)
    (frequencies' : RelativeFrequencies terms' weights') (same : terms.Perm terms') :
    weights.Perm weights' := by
  refine (List.perm_ext_iff_of_nodup frequencies.keys.of_map frequencies'.keys.of_map).mpr ?_
  intro entry
  rw [frequencies.mem_iff, frequencies'.mem_iff, same.mem_iff, same.count_eq, same.length_eq]

end RelativeFrequencies

theorem sum_quotients (counts : List Nat) (total : ℚ) :
    (counts.map fun (count : Nat) => (count : ℚ) / total).sum = counts.sum / total := by
  induction counts with
  | nil => simp
  | cons count counts ih =>
      rw [List.map_cons, List.sum_cons, ih, List.sum_cons, Nat.cast_add, add_div]

/-- Division by the number of terms turns counts into relative frequencies. -/
theorem relativeFrequencies_map {terms : List Text} {freq : List (Text × Nat)}
    (counted : Counted terms freq) {total : Nat} (counts : terms ≠ [] → total = terms.length) :
    RelativeFrequencies terms (freq.map fun (term, count) => (term, (count : ℚ) / total)) := by
  have keys : (freq.map fun (term, count) => (term, (count : ℚ) / total)).map Prod.fst =
      freq.map Prod.fst := by
    rw [List.map_map]
    rfl
  have entries : ∀ entry ∈ freq,
      0 < entry.2 ∧ entry.2 = terms.count entry.1 ∧ 0 < terms.length ∧ total = terms.length := by
    intro entry member
    obtain ⟨present, count⟩ := (counted.mem entry.1 entry.2).mp member
    exact ⟨count ▸ List.count_pos_iff.mpr present, count, List.length_pos_of_mem present,
      counts (List.ne_nil_of_mem present)⟩
  refine ⟨List.forall_mem_map.mpr ?_, keys ▸ counted.keys, ?_, List.forall_mem_map.mpr ?_, ?_⟩
  · intro entry member
    obtain ⟨positive, _, nonempty, same⟩ := entries entry member
    rw [← same] at nonempty
    exact div_pos (Nat.cast_pos.mpr positive) (Nat.cast_pos.mpr nonempty)
  · rw [keys]
    exact counted.mem_keys
  · intro entry member
    obtain ⟨_, count, _, same⟩ := entries entry member
    simp only [count, same]
  · intro nonempty
    have quotients : (freq.map fun (term, count) => (term, (count : ℚ) / total)).map Prod.snd =
        (freq.map Prod.snd).map fun (count : Nat) => (count : ℚ) / total := by
      rw [List.map_map, List.map_map]
      rfl
    have length : (terms.length : ℚ) ≠ 0 :=
      Nat.cast_ne_zero.mpr (List.length_pos_of_ne_nil nonempty).ne'
    rw [quotients, sum_quotients, counted.total, counts nonempty, div_self length]

theorem relativeFrequencies_bm25Sparse (tokens : List Text) :
    RelativeFrequencies (tokens.map Text.lower) (bm25Sparse tokens) := by
  have counted := Counted.nil.foldl tokens
  rw [List.nil_append] at counted
  refine relativeFrequencies_map counted fun nonempty => ?_
  have tokensLeft : tokens.length ≠ 0 := fun none =>
    nonempty (List.map_eq_nil_iff.mpr (List.length_eq_zero_iff.mp none))
  rw [if_neg tokensLeft, List.length_map]

/-- The sparse vector of a token list as a JSON object. -/
def bm25Weights (tokens : List Text) : TermWeights ℚ where
  entries := bm25Sparse tokens
  keys := (relativeFrequencies_bm25Sparse tokens).keys

/-! ## Scores -/

namespace HybridSearch

theorem getD_sum (values : List ℚ) : (sum values).getD 0 = values.sum := by
  cases values with
  | nil => rfl
  | cons value values =>
      rw [sum, Option.getD_some, List.sum_cons]
      induction values generalizing value with
      | nil => simp
      | cons next values ih => rw [List.foldl_cons, ih, List.sum_cons, add_assoc]

/-- Weights that are at most one make products that are at most the other weights. -/
theorem sum_products_mem {entries : List (Text × ℚ)} {weightOf : Text → Option ℚ}
    (nonneg : ∀ entry ∈ entries, 0 ≤ entry.2)
    (bounds : ∀ term weight, weightOf term = some weight → 0 ≤ weight ∧ weight ≤ 1) :
    0 ≤ (entries.filterMap fun (key, weight) => (weightOf key).map (weight * ·)).sum ∧
      (entries.filterMap fun (key, weight) => (weightOf key).map (weight * ·)).sum ≤
        (entries.map Prod.snd).sum := by
  induction entries with
  | nil => simp
  | cons entry entries ih =>
      obtain ⟨key, weight⟩ := entry
      rw [List.forall_mem_cons] at nonneg
      obtain ⟨positive, ih⟩ := And.intro nonneg.1 (ih nonneg.2)
      cases shared : weightOf key with
      | none =>
          simp only [List.filterMap_cons, shared, Option.map_none, List.map_cons, List.sum_cons]
          exact ⟨ih.1, ih.2.trans (le_add_of_nonneg_left positive)⟩
      | some other =>
          obtain ⟨least, most⟩ := bounds key other shared
          simp only [List.filterMap_cons, shared, Option.map_some, List.map_cons, List.sum_cons]
          exact ⟨add_nonneg (mul_nonneg positive least) ih.1,
            add_le_add (mul_le_of_le_one_right positive most) ih.2⟩

/-- A chunk has no sparse vector or that of some tokens. -/
def Indexed (chunk : SearchChunk ℚ) : Prop :=
  ∀ sparseVector, chunk.sparseVector = some sparseVector →
    ∃ tokens, sparseVector = bm25Weights tokens

/-- The row of a chunk as the search reads it. -/
def storedChunk (upload : Upload) (chunk : TextChunk) (embedding : Embedding)
    (chunkId : ChunkId) : SearchChunk ℚ :=
  let row := IngestionPipeline.record upload chunk embedding chunkId
  { chunkId := row.chunkId
    documentId := row.documentId
    workspaceId := row.workspaceId
    projectId := row.projectId
    content := row.content
    embedding := row.embedding
    sparseVector := some ⟨row.sparseVector, (bm25Weights (Python.split chunk.text)).keys⟩
    sectionTitle := row.sectionTitle
    pageNumber := row.pageNumber
    isActive := row.isActive }

theorem indexed_storedChunk (upload : Upload) (chunk : TextChunk) (embedding : Embedding)
    (chunkId : ChunkId) : Indexed (storedChunk upload chunk embedding chunkId) := by
  intro sparseVector stored
  exact ⟨Python.split chunk.text, (Option.some.inj stored).symm⟩

theorem sparseTerm_mem (queryTokens : List Text) {chunk : SearchChunk ℚ}
    (indexed : Indexed chunk) :
    0 ≤ sparseTerm (bm25Weights queryTokens) chunk.sparseVector ∧
      sparseTerm (bm25Weights queryTokens) chunk.sparseVector ≤ 1 := by
  have frequencies := relativeFrequencies_bm25Sparse queryTokens
  have bounds (term : Text) (weight : ℚ)
      (found : (chunk.sparseVector.bind (·.entries.lookup term)) = some weight) :
      0 ≤ weight ∧ weight ≤ 1 := by
    obtain ⟨sparseVector, stored, found⟩ := Option.bind_eq_some_iff.mp found
    obtain ⟨tokens, rfl⟩ := indexed sparseVector stored
    obtain ⟨front, back, entries, _⟩ := List.lookup_eq_some_iff.mp found
    have member : (term, weight) ∈ (bm25Weights tokens).entries :=
      entries ▸ List.mem_append_right front List.mem_cons_self
    have stored := relativeFrequencies_bm25Sparse tokens
    exact ⟨stored.nonneg _ member, stored.le_one _ member⟩
  have products := sum_products_mem frequencies.nonneg bounds
  rw [sparseTerm, getD_sum]
  exact ⟨products.1, products.2.trans frequencies.sum_le⟩

theorem score_le (server : SearchServer ℚ) {query : SearchQuery ℚ} {chunk : SearchChunk ℚ}
    (dense : 0 ≤ query.denseW) (sparse : 0 ≤ query.sparseW)
    (similarity : 1 - server.distance chunk.embedding query.embedding ≤ 1)
    (shared : sparseTerm query.bm25Tokens chunk.sparseVector ≤ 1) :
    score server query chunk ≤ query.denseW + query.sparseW :=
  add_le_add (mul_le_of_le_one_right dense similarity) (mul_le_of_le_one_right sparse shared)

/-- The weights of a token list are the relative frequencies of its lower-cased tokens and
depend on nothing else.  A query with them gives every chunk a sparse term of at most one, and
a score of at most the two weights together. -/
theorem bm25Sparse_normalised (tokens : List Text) :
    RelativeFrequencies (tokens.map Text.lower) (bm25Sparse tokens) ∧
      bm25Sparse [] = [] ∧
      (∀ tokens' : List Text, (tokens.map Text.lower).Perm (tokens'.map Text.lower) →
        (bm25Sparse tokens).Perm (bm25Sparse tokens')) ∧
      ∀ (server : SearchServer ℚ) (query : SearchQuery ℚ) (chunk : SearchChunk ℚ),
        query.bm25Tokens = bm25Weights tokens → Indexed chunk →
        0 ≤ sparseTerm query.bm25Tokens chunk.sparseVector ∧
        sparseTerm query.bm25Tokens chunk.sparseVector ≤ 1 ∧
        (0 ≤ query.denseW → 0 ≤ query.sparseW →
          -1 ≤ 1 - server.distance chunk.embedding query.embedding →
          1 - server.distance chunk.embedding query.embedding ≤ 1 →
          score server query chunk ≤ query.denseW + query.sparseW) := by
  refine ⟨relativeFrequencies_bm25Sparse tokens, rfl, fun tokens' same => ?_, ?_⟩
  · exact (relativeFrequencies_bm25Sparse tokens).perm (relativeFrequencies_bm25Sparse tokens') same
  · intro server query chunk weights indexed
    obtain ⟨least, most⟩ := sparseTerm_mem tokens indexed
    rw [← weights] at least most
    exact ⟨least, most, fun dense sparse _ similarity =>
      score_le server dense sparse similarity most⟩

end HybridSearch

end Chitragupt
