import Chitragupt.Ingestion.OwnVectors
import Chitragupt.Ingestion.PiiPasses
import Chitragupt.Lib.WordCount

/-!
# The token counts of the chunks

The words of a chunk are counted when it is cut, its content and its sparse vector come after
the scrubbing.  The scrubbing takes a word away wherever it replaces white space, and only a
phone number has white space in it.
-/

namespace Chitragupt

open Python (isSpace isWordCharacter split)
open WordCount (Firm Worded starts)

/-- The token count and the sparse vector of a row are those of its content. -/
def ChunkRow.Consistent (row : ChunkRow) : Prop :=
  row.tokenCount = (split row.content).length ∧
    row.sparseVector = bm25Sparse (split row.content)

/-! ## Words of a scrubbed text -/

section Texts

variable [Python.CharacterData] {text : Text}

/-- Each phone number with white space in it shares a character with an email address. -/
def PhonesMeetEmails (text : Text) : Prop :=
  ∀ number, phone.MatchesAt isWordCharacter text number → Spaced text number →
    ∃ address, email.MatchesAt isWordCharacter text address ∧ address.Meets number

omit [Python.CharacterData] in
theorem length_split (text : Text) : (split text).length = starts isSpace false text :=
  (WordCount.length_filter_splitOnP text).1

/-- A match starts and ends with other characters than white space. -/
theorem firm_of_matches {rule : Rule Nat} (present : rule ∈ piiPatterns) {left right : Bool}
    (matched : rule.pattern.Matches isWordCharacter left text right) : Firm isSpace text := by
  have edged : rule.WordEdged isWordCharacter → Firm isSpace text := by
    intro edged
    rcases edged _ _ _ matched with ⟨begins, ends⟩
    exact WordCount.firm_of_edges (fun _ => isSpace_of_isWordCharacter) (begins false) (ends false)
  have nonempty : text ≠ [] := by
    rintro rfl
    exact (apart_piiPatterns rule present).solid _ _ matched
  rw [piiPatterns] at present
  simp only [List.mem_cons, List.not_mem_nil, or_false] at present
  rcases present with rfl | rfl | rfl | rfl
  · exact WordCount.firm_of_solid nonempty (solid_email.of_mem (Regex.matches_whole.mp matched).2.1)
  · exact edged shapedBy_phone.wordEdged
  · exact edged shapedBy_ssn.wordEdged
  · exact edged shapedBy_card.wordEdged

omit [Python.CharacterData] in
theorem solid_labels : ∀ rule ∈ piiPatterns, rule.label ≠ [] ∧
    ∀ char ∈ rule.label, isSpace char = false := by decide

/-- The parts of a scrubbed text that are replaced, in a text that is marked. -/
theorem worded_of_sound {segments : List (Segment (Nat × Option Nat))}
    (sound : Rule.Sound (isWordCharacter ∘ Prod.fst)
      (piiPatterns.map (Rule.comap Prod.fst Rule.unmarked)) false segments) :
    Worded (isSpace ∘ Prod.fst) segments := by
  have part : ∀ label piece, .replaced label piece ∈ segments → ∃ rule ∈ piiPatterns,
      label = rule.label.map Rule.unmarked ∧ Firm (isSpace ∘ Prod.fst) piece := by
    intro label piece member
    rcases List.append_of_mem member with ⟨front, back, rfl⟩
    rcases (Rule.sound_append sound).1 with ⟨marked, present, rfl, matched⟩
    rcases List.mem_map.mp present with ⟨rule, listed, rfl⟩
    rw [Rule.matches_pattern_comap] at matched
    exact ⟨rule, listed, rfl, (WordCount.firm_map_iff Prod.fst).mp (firm_of_matches listed matched)⟩
  constructor
  · intro label piece member
    rcases part label piece member with ⟨_, _, _, firm⟩
    exact firm
  · intro label piece member
    rcases part label piece member with ⟨rule, present, rfl, _⟩
    exact mt List.map_eq_nil_iff.mp (solid_labels rule present).1
  · intro label piece member char inside
    rcases part label piece member with ⟨rule, present, rfl, _⟩
    rcases List.mem_map.mp inside with ⟨code, letter, rfl⟩
    exact (solid_labels rule present).2 code letter

/-- Some white space is replaced exactly when a phone number has it that no address meets. -/
theorem exists_spaced_iff {window : Span} {replaced : Rule Nat → Span → Prop}
    (replaces : ReplacesPii text window replaced)
    (whole : ∀ span : Span, span.stop ≤ text.length → window.Covers span) :
    (∃ rule span, replaced rule span ∧ Spaced text span) ↔ ¬PhonesMeetEmails text := by
  constructor
  · rintro ⟨rule, span, replaced', spaced⟩ meets
    rcases replaces.matched _ _ replaced' with ⟨present, matched, _⟩
    rw [List.mem_cons, List.mem_cons, List.mem_cons, List.mem_singleton] at present
    rcases present with rfl | rfl | rfl | rfl
    · exact not_spaced solid_email matched spaced
    · rcases meets span matched spaced with ⟨address, email', shared⟩
      exact not_meets_of_replaced replaces replaced' spaced email'
        (whole _ (stop_le_of_matchesAt email')) shared
    · exact not_spaced solid_ssn matched spaced
    · exact not_spaced solid_card matched spaced
  · intro apart
    simp only [PhonesMeetEmails, not_forall, not_exists, not_and] at apart
    rcases apart with ⟨number, matched, spaced, none'⟩
    have covers := whole number (stop_le_of_matchesAt matched)
    exact ⟨phone, number, replaced_of_not_meets replaces matched covers none', spaced⟩

/-- The scrubbing keeps the number of words exactly when an email address meets each phone
number with white space. -/
theorem length_split_scrubPii_iff (text : Text) :
    (split text).length = (split (scrubPii text)).length ↔ PhonesMeetEmails text := by
  rcases Rule.exists_passes apart_piiPatterns text ⟨0, text.length⟩ with ⟨cuts, segments, passes⟩
  have shown : (Segment.shown segments).map Prod.fst = scrubPii text := by
    rw [passes.shown_eq, Rule.map_fst_redactWindow, Span.slice_whole rfl]
    rfl
  have source : (Segment.source segments).map Prod.fst = text := by
    rw [passes.source_eq, Span.slice_whole (Rule.length_mark text), Rule.map_fst_mark]
  have isolated := Rule.isolated_whole isWordCharacter text
  have replaces := passes.replaces apart_piiPatterns isolated
  have spaced := exists_spaced_iff replaces fun span inside => ⟨Nat.zero_le _, inside⟩
  have counts := WordCount.starts_shown_eq_iff (worded_of_sound passes.sound)
  rw [← WordCount.starts_map, ← WordCount.starts_map, shown, source, ← length_split,
    ← length_split] at counts
  rw [eq_comm, counts, ← not_iff_not, ← spaced]
  have parts := @Rule.Passes.exists_mem_replaced_iff _ _ _ _ _ _ _ _ passes isolated
    fun code => isSpace code = true
  simp only [not_forall, Bool.not_eq_false, exists_prop]
  exact parts

end Texts

/-! ## Rows of a document -/

namespace IngestionPipeline

/-- A pipeline that scrubs with these patterns. -/
def withPatterns [Python.CharacterData] (pipeline : IngestionPipeline) : IngestionPipeline :=
  { pipeline with scrubPii := Chitragupt.scrubPii }

variable (pipeline : IngestionPipeline) (upload : Upload)

/-- The ingestion raises, or all rows that it stores are consistent. -/
def KeepsCounts (before : Storage) : Prop :=
  ∀ totalTokens after, pipeline.ingest upload before = .returns totalTokens after →
    ∃ rows, after.chunks = before.chunks ++ rows ∧ ∀ row ∈ rows, row.Consistent

section Rows

variable {upload} {before after : Storage}

/-- An ingestion that returns has stored the chunks that have a vector. -/
theorem stored_of_ingest {totalTokens : Nat}
    (returned : pipeline.ingest upload before = .returns totalTokens after) :
    ∃ pages produced embeddings,
      pipeline.process upload.content upload.filename = .ok pages ∧
        pipeline.chunker.chunk pages = some produced ∧
          pipeline.embedTexts ((pipeline.scrub produced).map TextChunk.text) = .ok embeddings ∧
            after.chunks =
              before.chunks ++ rowsFor upload before (pipeline.scrub produced) embeddings := by
  rcases pipeline.prepared_of_ingest returned with ⟨chunks, embeddings, done, stored⟩
  rcases pipeline.chunked_of_prepare upload done with ⟨pages, produced, extracted, chunked, rfl⟩
  by_cases empty : pipeline.scrub produced = []
  · refine ⟨pages, produced, [], extracted, chunked, by rw [empty]; rfl, ?_⟩
    rw [stored, empty, rowsFor_eq_nil.mpr (.inl rfl), rowsFor_eq_nil.mpr (.inl rfl)]
  · have embedded := (pipeline.embedded_of_prepare done).2 empty
    exact ⟨pages, produced, embeddings, extracted, chunked, embedded, stored⟩

/-- The rows of the chunks that have a vector are consistent when their counts are. -/
theorem consistent_rowsFor_iff {chunks : List TextChunk} {embeddings : List Embedding} :
    (∀ row ∈ rowsFor upload before chunks embeddings, row.Consistent) ↔
      ∀ chunk ∈ chunks.take embeddings.length,
        chunk.tokenCount = (split chunk.text).length := by
  let view := fun row : ChunkRow => (row.tokenCount, row.content, row.sparseVector)
  let chunkView := fun chunk : TextChunk =>
    (chunk.tokenCount, chunk.text, bm25Sparse (split chunk.text))
  have views : (rowsFor upload before chunks embeddings).map view =
      (chunks.take embeddings.length).map chunkView :=
    map_rowsFor upload before chunks embeddings view chunkView fun _ _ _ => rfl
  have rows := @List.forall_mem_map _ _ view (rowsFor upload before chunks embeddings)
    fun (tokens, content, vector) =>
      tokens = (split content).length ∧ vector = bm25Sparse (split content)
  rw [views, List.forall_mem_map] at rows
  refine Iff.trans rows.symm ?_
  simp only [chunkView, and_true]

/-- The chunks of a document tell the numbers of their words after the scrubbing exactly when
there is none, or no phone number with white space is replaced. -/
theorem counted_scrub_iff [Python.CharacterData] {pages : List RawPage}
    {produced : List TextChunk} (chunked : pipeline.chunker.chunk pages = some produced)
    (count : Nat) :
    (∀ chunk ∈ (pipeline.withPatterns.scrub produced).take count,
        chunk.tokenCount = (split chunk.text).length) ↔
      (pipeline.config.piiScrubEnabled = true →
        ∀ chunk ∈ produced.take count, PhonesMeetEmails chunk.text) := by
  have counted : ∀ chunk ∈ produced.take count,
      chunk.tokenCount = (split chunk.text).length :=
    fun chunk member => pipeline.chunker.tokenCount_of_mem_chunk chunked (List.mem_of_mem_take member)
  by_cases enabled : pipeline.config.piiScrubEnabled = true
  · have scrubbed : pipeline.withPatterns.scrub produced = produced.map fun chunk =>
        { chunk with text := Chitragupt.scrubPii chunk.text } := if_pos enabled
    rw [scrubbed, ← List.map_take, List.forall_mem_map]
    simp only [enabled, forall_const]
    refine forall₂_congr fun chunk member => ?_
    rw [counted chunk member]
    exact length_split_scrubPii_iff chunk.text
  · have same : pipeline.withPatterns.scrub produced = produced := if_neg enabled
    rw [same]
    exact iff_of_true counted fun on => absurd on enabled

end Rows

/-- The rows of an ingestion that returns are consistent exactly when nothing is scrubbed, or
in each chunk that gets a vector an email address meets each phone number with white space. -/
theorem keepsCounts_iff [Python.CharacterData] (before : Storage) :
    pipeline.withPatterns.KeepsCounts upload before ↔
      ((∃ totalTokens after,
          pipeline.withPatterns.ingest upload before = .returns totalTokens after) →
        pipeline.config.piiScrubEnabled = true → ∀ pages produced embeddings,
          pipeline.process upload.content upload.filename = .ok pages →
            pipeline.chunker.chunk pages = some produced →
              pipeline.withPatterns.embedTexts
                  ((pipeline.withPatterns.scrub produced).map TextChunk.text) = .ok embeddings →
                ∀ chunk ∈ produced.take embeddings.length, PhonesMeetEmails chunk.text) := by
  constructor
  · rintro keeps ⟨totalTokens, after, returned⟩ enabled pages produced embeddings extracted
      chunked embedded
    rcases keeps totalTokens after returned with ⟨rows, stored, consistent⟩
    rcases pipeline.withPatterns.stored_of_ingest returned with
      ⟨pages', produced', embeddings', extracted', chunked', embedded', stored'⟩
    rcases Except.ok.inj (extracted.symm.trans extracted') with rfl
    rcases Option.some.inj (chunked.symm.trans chunked') with rfl
    rcases Except.ok.inj (embedded.symm.trans embedded') with rfl
    rw [stored', List.append_cancel_left_eq] at stored
    rw [← stored, consistent_rowsFor_iff, pipeline.counted_scrub_iff chunked] at consistent
    exact consistent enabled
  · intro meets totalTokens after returned
    rcases pipeline.withPatterns.stored_of_ingest returned with
      ⟨pages, produced, embeddings, extracted, chunked, embedded, stored⟩
    refine ⟨_, stored, ?_⟩
    rw [consistent_rowsFor_iff, pipeline.counted_scrub_iff chunked]
    intro enabled
    exact meets ⟨totalTokens, after, returned⟩ enabled pages produced embeddings extracted chunked
      embedded

end IngestionPipeline

/-! ### A phone number with spaces -/

/-- A document with a phone number of three words. -/
def spacedPipeline : IngestionPipeline :=
  { samplePipeline with
    process := fun _ _ => .ok [{ text := .ofString "call 415 202 0123 now", pageNumber := 1 }] }

/-- The row counts five words, and its content has three. -/
theorem not_keepsCounts_of_spacedPipeline :
    ¬(@IngestionPipeline.withPatterns Python.plainCharacters spacedPipeline).KeepsCounts
      sampleUpload sampleStorage := by
  intro keeps
  obtain ⟨after, returned, counts⟩ : ∃ after,
      (@IngestionPipeline.withPatterns Python.plainCharacters spacedPipeline).ingest sampleUpload
        sampleStorage = .returns 5 after ∧
      after.chunks.map (fun row => (row.tokenCount, (split row.content).length)) = [(5, 3)] :=
    ⟨_, rfl, by decide +kernel⟩
  rcases keeps 5 after returned with ⟨rows, stored, consistent⟩
  have none : sampleStorage.chunks = [] := rfl
  rw [none, List.nil_append] at stored
  rw [stored] at counts
  cases rows with
  | nil => cases counts
  | cons row rest =>
      have both := (List.cons.inj counts).1
      rw [Prod.mk.injEq] at both
      have same := (consistent row List.mem_cons_self).1
      rw [both.1, both.2] at same
      cases same

end Chitragupt
