import Chitragupt.Ingestion.ChunkCoverage
import Chitragupt.Ingestion.Pipeline
import Chitragupt.Ingestion.PiiPasses
import Chitragupt.Lib.JoinedWords

/-!
# PII and the windows of the chunker

The text of a chunk is scrubbed after the windows are cut.  A match that lies in one word is
redacted in every chunk that has the word.  A phone number of several words is redacted only
by a chunk that has all of them, and not even there if an email address overlaps with it.
-/

namespace Chitragupt

open Python (isWordCharacter split)
open Rule (mark unmarked)
open JoinedWords (place wordPlace)

/-! ## Words of a page -/

/-- The words of a page with single spaces between them. -/
def pageText (page : RawPage) : Text :=
  List.intercalate (Text.ofString " ") (split page.text)

/-- Where a window lies in the text of its page. -/
def windowPlace (page : RawPage) (span : Span) : Span := place (split page.text) span

/-- The positions of a match in one word of a page. -/
def partOf (page : RawPage) (found : Span) (word : Nat) : Span :=
  found.inter (wordPlace (split page.text) word)

/-- A match has characters of a word. -/
def Touches (page : RawPage) (found : Span) (word : Nat) : Prop :=
  word < (split page.text).length ∧ found.Meets (wordPlace (split page.text) word)

section Words

variable {page : RawPage} {word position : Nat} {found : Span}

theorem pageText_eq (page : RawPage) : pageText page = JoinedWords.text 32 (split page.text) := rfl

/-- A character of a word is not a space. -/
theorem exists_solid (inside : word < (split page.text).length)
    (holds : (wordPlace (split page.text) word).Holds position) :
    ∃ code, (pageText page)[position]? = some code ∧ code ≠ 32 := by
  rcases @JoinedWords.exists_mem_of_holds Nat 32 _ _ _ inside holds with ⟨code, member, here⟩
  refine ⟨code, here, ?_⟩
  rintro rfl
  have solid := (Python.isWord_of_mem_split (List.getElem_mem inside)).solid 32 member
  cases solid

/-- A character that is not a space is in a word. -/
theorem exists_word {code : Nat} (here : (pageText page)[position]? = some code)
    (solid : code ≠ 32) : ∃ word < (split page.text).length,
      (wordPlace (split page.text) word).Holds position := by
  rcases List.getElem?_eq_some_iff.mp here with ⟨inside, _⟩
  rcases @JoinedWords.exists_wordPlace Nat 32 _ _ inside with held | space
  · exact held
  · rw [← pageText_eq, here] at space
    exact absurd (Option.some.inj space) solid

/-- A part without white space lies in each word that it meets. -/
theorem covers_of_not_spaced (touches : Touches page found word)
    (bound : found.stop ≤ (pageText page).length) (solid : ¬Spaced (pageText page) found) :
    (wordPlace (split page.text) word).Covers found := by
  rcases touches with ⟨inside, position, held, within⟩
  have lower := held.1
  have upper := held.2
  have lower' := within.1
  have upper' := within.2
  constructor
  · by_contra early
    have space := @JoinedWords.separator_before Nat 32 (split page.text) ⟨word, word + 1⟩
      ((wordPlace (split page.text) word).start - 1) (Nat.lt_succ_self word) inside
      (Nat.sub_add_cancel (by omega))
    exact solid ⟨_, 32, ⟨by omega, by omega⟩, space, rfl⟩
  · by_contra late
    have here := List.getElem?_eq_getElem
      ((by omega : (wordPlace (split page.text) word).stop < found.stop).trans_le bound)
    have space := @JoinedWords.separator_after Nat 32 (split page.text) ⟨word, word + 1⟩ _
      (Nat.lt_succ_self word) inside here
    exact solid ⟨_, 32, ⟨by omega, by omega⟩, space ▸ here, rfl⟩

theorem touches_of_holds (inside : word < (split page.text).length) (held : found.Holds position)
    (within : (wordPlace (split page.text) word).Holds position) : Touches page found word :=
  ⟨inside, position, held, within⟩

theorem meets_partOf {other : Span} :
    other.Meets (partOf page found word) ↔
      ∃ position, other.Holds position ∧ found.Holds position ∧
        (wordPlace (split page.text) word).Holds position := by
  simp only [Span.Meets, partOf, Span.holds_inter]

end Words

/-! ## What is stored of a page -/

section Characters

variable [Python.CharacterData]

/-- The content that is stored for a window; what is left of the page has its positions. -/
def storedContent (page : RawPage) (span : Span) : List (Nat × Option Nat) :=
  Rule.redactWindow isWordCharacter piiPatterns (pageText page) (windowPlace page span)

/-- The stored content has the matched characters of a word. -/
def Leaks (page : RawPage) (span found : Span) (word : Nat) : Prop :=
  (partOf page found word).slice (mark (pageText page)) <:+: storedContent page span

/-- No stored content has the matched characters of a word of a match. -/
def Redacted (page : RawPage) (spans : List Span) : Prop :=
  ∀ rule ∈ piiPatterns, ∀ found, rule.MatchesAt isWordCharacter (pageText page) found →
    ∀ word, Touches page found word → ∀ span ∈ spans, ¬Leaks page span found word

/-- An email address shares a character with these positions. -/
def EmailMeets (page : RawPage) (span : Span) : Prop :=
  ∃ address, email.MatchesAt isWordCharacter (pageText page) address ∧ address.Meets span

/-- Each window with a word of a phone number has the whole number and no email address overlaps
with it, or an email address overlaps with that word of the number. -/
def PhonesWhole (page : RawPage) (chunked : Span → Prop) : Prop :=
  ∀ number, phone.MatchesAt isWordCharacter (pageText page) number →
    ∀ word, Touches page number word → ∀ span, chunked span → span.Holds word →
      EmailMeets page (partOf page number word) ∨
        (∀ other, Touches page number other → span.Holds other) ∧ ¬EmailMeets page number

/-! ## Replaced parts of a window -/

section Windows

variable {page : RawPage} {span found : Span} {word : Nat}

theorem space_not_word : isWordCharacter 32 = false := by
  rw [Python.isWordCharacter_of_ascii (by decide)]
  rfl

/-- A window is isolated in its page. -/
theorem isolated (ordered : span.start < span.stop) (inside : span.stop ≤ (split page.text).length) :
    Rule.Isolated isWordCharacter (pageText page) (windowPlace page span) := by
  rcases @JoinedWords.text_eq_place Nat 32 _ _ ordered inside with
    ⟨front, back, same, start, stop, before, after⟩
  rw [pageText_eq, same, windowPlace]
  refine ⟨by omega, ?_, ?_, ?_⟩
  · rw [List.length_append, List.length_append]
    omega
  · rw [← start, List.take_left]
    rcases List.eq_nil_or_concat front with rfl | ⟨rest, last, rfl⟩
    · rfl
    · rw [List.concat_eq_append] at before ⊢
      rw [Regex.lastWord_append, before last List.getLast?_concat]
      exact space_not_word
  · rw [← stop, ← List.append_assoc, ← List.length_append, List.drop_left]
    cases back with
    | nil => rfl
    | cons first rest =>
        rw [after first rfl]
        exact space_not_word

/-! ## Words that leak -/

/-- A word of a match leaks when the window has the word and nothing that is replaced meets the
matched part of it. -/
theorem exists_replacesPii (ordered : span.start < span.stop)
    (inside : span.stop ≤ (split page.text).length) :
    ∃ replaced, ReplacesPii (pageText page) (windowPlace page span) replaced ∧
      ∀ found word, Touches page found word →
        (Leaks page span found word ↔ span.Holds word ∧
          ∀ rule other, replaced rule other → ¬other.Meets (partOf page found word)) := by
  rcases Rule.exists_replaces apart_piiPatterns (isolated ordered inside) with
    ⟨replaced, replaces, whole, left⟩
  refine ⟨replaced, replaces, ?_⟩
  rintro found word ⟨few, position, held, within⟩
  have here : (partOf page found word).Holds position := Span.holds_inter.mpr ⟨held, within⟩
  have nonempty : (partOf page found word).start < (partOf page found word).stop :=
    here.1.trans_lt here.2
  have covered : span.Holds word → (windowPlace page span).Covers (partOf page found word) := by
    intro holds
    have place := @JoinedWords.wordPlace_within Nat (split page.text) _ _ holds
    exact ⟨place.1.trans (le_max_right _ _), (min_le_right _ _).trans place.2⟩
  constructor
  · intro leaks
    have holds : span.Holds word := by
      rcases exists_solid few within with ⟨code, found', _⟩
      have member := leaks.subset (Rule.mem_slice_mark.mpr ⟨found', here⟩)
      exact JoinedWords.holds_of_meets (left _ _ member) within
    exact ⟨holds, (whole _ nonempty (covered holds)).mp leaks⟩
  · rintro ⟨holds, untouched⟩
    exact (whole _ nonempty (covered holds)).mpr untouched

/-- The positions of a run of words that has all words of a phone number. -/
theorem covers_of_touches {number : Span}
    (matched : phone.MatchesAt isWordCharacter (pageText page) number)
    (all : ∀ other, Touches page number other → span.Holds other) :
    (windowPlace page span).Covers number := by
  rcases wordAt_edges shapedBy_phone.wordEdged matched with ⟨nonempty, first, last⟩
  have place : ∀ position, number.Holds position →
      WordRuns.wordAt isWordCharacter (pageText page) position = true →
        (windowPlace page span).Holds position := by
    intro position held word'
    rw [WordRuns.wordAt, Option.any_eq_true] at word'
    rcases word' with ⟨code, here, isWord⟩
    have solid : code ≠ 32 := by
      rintro rfl
      rw [space_not_word] at isWord
      cases isWord
    rcases exists_word here solid with ⟨other, few, within⟩
    have holds := all other (touches_of_holds few held within)
    exact (JoinedWords.wordPlace_within holds).holds within
  have start := place number.start ⟨le_rfl, nonempty⟩ first
  have stop := place (number.stop - 1) ⟨by omega, by omega⟩ last
  have upper := stop.2
  exact ⟨start.1, by omega⟩

/-- An email address that meets a word lies in the windows with the word. -/
theorem covers_of_email {address : Span} {position : Nat}
    (email' : email.MatchesAt isWordCharacter (pageText page) address)
    (few : word < (split page.text).length) (holds : span.Holds word)
    (within : (wordPlace (split page.text) word).Holds position)
    (here : address.Holds position) : (windowPlace page span).Covers address := by
  apply (JoinedWords.wordPlace_within holds).trans
  exact covers_of_not_spaced (touches_of_holds few here within) (stop_le_of_matchesAt email')
    (not_spaced solid_email email')

/-- A phone number in one word is whole in each window with the word. -/
theorem whole_of_covers {number : Span} (holds : span.Holds word)
    (single : (wordPlace (split page.text) word).Covers number) :
    EmailMeets page (partOf page number word) ∨
      (∀ other, Touches page number other → span.Holds other) ∧ ¬EmailMeets page number := by
  by_cases meets : EmailMeets page number
  · rcases meets with ⟨address, email', place, here, held⟩
    exact .inl ⟨address, email', meets_partOf.mpr ⟨place, here, held, single.holds held⟩⟩
  · refine .inr ⟨?_, meets⟩
    rintro other ⟨_, place, held, there⟩
    rwa [JoinedWords.eq_of_holds there (single.holds held)]

/-- A phone number of several words that is replaced is whole in the window: an email address
that meets it would have been replaced before. -/
theorem whole_of_replaced {replaced : Rule Nat → Span → Prop}
    (replaces : ReplacesPii (pageText page) (windowPlace page span) replaced) {number : Span}
    (replaced' : replaced phone number) (spaced : Spaced (pageText page) number) :
    (∀ other, Touches page number other → span.Holds other) ∧ ¬EmailMeets page number := by
  rcases replaces.matched _ _ replaced' with ⟨_, matched, covers⟩
  constructor
  · rintro other ⟨_, place, held, there⟩
    exact JoinedWords.holds_of_meets (covers.holds held) there
  · rintro ⟨address, email', place, here, held⟩
    rcases exists_allowed solid_email email' here with ⟨code, found', solid⟩
    have apart : code ≠ 32 := by
      rintro rfl
      cases solid
    rcases exists_word found' apart with ⟨other, few, within⟩
    have holds := JoinedWords.holds_of_meets (covers.holds held) within
    exact not_meets_of_replaced replaces replaced' spaced email'
      (covers_of_email email' few holds within here) ⟨place, here, held⟩

variable (ordered : span.start < span.stop) (inside : span.stop ≤ (split page.text).length)

include ordered inside

/-- A match in one word does not leak. -/
theorem not_leaks_of_covers {rule : Rule Nat} (present : rule ∈ piiPatterns)
    (edged : rule = email ∨ rule.WordEdged isWordCharacter)
    (matched : rule.MatchesAt isWordCharacter (pageText page) found)
    (touches : Touches page found word)
    (covers : (wordPlace (split page.text) word).Covers found) : ¬Leaks page span found word := by
  intro leaks
  rcases exists_replacesPii ordered inside with ⟨replaced, replaces, leaks_iff⟩
  rcases (leaks_iff found word touches).mp leaks with ⟨holds, untouched⟩
  have within : (windowPlace page span).Covers found :=
    (JoinedWords.wordPlace_within holds).trans covers
  cases edged with
  | inl same =>
      subst same
      rcases replaces.starts found matched within with ⟨other, replaced', held⟩
      rcases touches.2 with ⟨position, here, _⟩
      have first : found.Holds found.start := ⟨le_rfl, here.1.trans_lt here.2⟩
      exact untouched _ _ replaced' (meets_partOf.mpr ⟨_, held, first, covers.holds first⟩)
  | inr edged =>
      rcases replaces.edged rule present edged found matched within with
        ⟨_, other, replaced', position, held, here⟩
      exact untouched _ _ replaced' (meets_partOf.mpr ⟨position, held, here, covers.holds here⟩)

/-- Email addresses, social security numbers and card numbers do not leak. -/
theorem not_leaks_of_solid {rule : Rule Nat} (present : rule ∈ [email, ssn, card])
    (matched : rule.MatchesAt isWordCharacter (pageText page) found)
    (touches : Touches page found word) : ¬Leaks page span found word := by
  rw [List.mem_cons, List.mem_cons, List.mem_singleton] at present
  rcases present with rfl | rfl | rfl
  · apply not_leaks_of_covers ordered inside (by simp [piiPatterns]) (.inl rfl) matched touches
    exact covers_of_not_spaced touches (stop_le_of_matchesAt matched) (not_spaced solid_email matched)
  · apply not_leaks_of_covers ordered inside (by simp [piiPatterns])
      (.inr shapedBy_ssn.wordEdged) matched touches
    exact covers_of_not_spaced touches (stop_le_of_matchesAt matched) (not_spaced solid_ssn matched)
  · apply not_leaks_of_covers ordered inside (by simp [piiPatterns])
      (.inr shapedBy_card.wordEdged) matched touches
    exact covers_of_not_spaced touches (stop_le_of_matchesAt matched) (not_spaced solid_card matched)

/-- A word of a phone number does not leak exactly when an email address meets that word of
it, or the window has all of the number and no email address meets it. -/
theorem not_leaks_iff {number : Span}
    (matched : phone.MatchesAt isWordCharacter (pageText page) number)
    (touches : Touches page number word) (holds : span.Holds word) :
    ¬Leaks page span number word ↔
      EmailMeets page (partOf page number word) ∨
        (∀ other, Touches page number other → span.Holds other) ∧ ¬EmailMeets page number := by
  by_cases single : (wordPlace (split page.text) word).Covers number
  · have hidden := not_leaks_of_covers ordered inside (by simp [piiPatterns])
      (.inr shapedBy_phone.wordEdged) matched touches single
    exact iff_of_true hidden (whole_of_covers holds single)
  · have spaced : Spaced (pageText page) number :=
      not_imp_comm.mp (covers_of_not_spaced touches (stop_le_of_matchesAt matched)) single
    rcases exists_replacesPii ordered inside with ⟨replaced, replaces, leaks_iff⟩
    rw [leaks_iff number word touches, and_iff_right holds]
    constructor
    · intro touched
      push Not at touched
      rcases touched with ⟨rule, other, replaced', meets⟩
      rcases meets_partOf.mp meets with ⟨place, here, held, there⟩
      rcases replaced_cases replaces matched replaced' ⟨place, here, held⟩ with rfl | ⟨rfl, rfl⟩
      · exact .inl ⟨other, (replaces.matched _ _ replaced').2.1, meets⟩
      · exact .inr (whole_of_replaced replaces replaced' spaced)
    · rintro (⟨address, email', meets⟩ | ⟨all, none'⟩) untouched
      · rcases meets_partOf.mp meets with ⟨place, here, held, there⟩
        have covers := covers_of_email email' touches.1 holds there here
        rcases exists_replaced_of_meets replaces matched spaced email' covers held here with
          ⟨other, replaced', inside'⟩
        exact untouched _ _ replaced' (meets_partOf.mpr ⟨place, inside', held, there⟩)
      · have replaced' := replaced_of_not_meets replaces matched (covers_of_touches matched all)
          fun address email' meets => none' ⟨address, email', meets⟩
        rcases touches.2 with ⟨place, held, within⟩
        exact untouched _ _ replaced' (meets_partOf.mpr ⟨place, held, held, within⟩)

end Windows

/-! ## Chunks of a document -/

/-- The matches of a page are redacted exactly when its phone numbers are whole. -/
theorem redacted_iff {page : RawPage} {spans : List Span} {chunked : Span → Prop}
    (same : ∀ span, span ∈ spans ↔ chunked span)
    (bounds : ∀ span ∈ spans, span.start < span.stop ∧ span.stop ≤ (split page.text).length) :
    Redacted page spans ↔ PhonesWhole page chunked := by
  constructor
  · intro redacted number matched word touches span member holds
    rw [← same] at member
    have hidden := redacted phone (by simp [piiPatterns]) number matched word touches span member
    exact (not_leaks_iff (bounds span member).1 (bounds span member).2 matched touches holds).mp
      hidden
  · intro whole rule present found matched word touches span member
    by_cases solid : rule ∈ [email, ssn, card]
    · exact not_leaks_of_solid (bounds span member).1 (bounds span member).2 solid matched touches
    · have number : rule = phone := by
        rw [piiPatterns] at present
        simp only [List.mem_cons, List.not_mem_nil, or_false] at present solid
        tauto
      subst number
      by_cases holds : span.Holds word
      · exact (not_leaks_iff (bounds span member).1 (bounds span member).2 matched touches
          holds).mpr (whole found matched word touches span ((same span).mp member) holds)
      · intro leaks
        rcases exists_replacesPii (bounds span member).1 (bounds span member).2 with
          ⟨replaced, _, leaks_iff⟩
        exact holds ((leaks_iff found word touches).mp leaks).1

/-- Without the positions, the stored content of a window is the scrubbed text of its chunk. -/
theorem map_fst_storedContent {page : RawPage} {span : Span} (ordered : span.start < span.stop)
    (inside : span.stop ≤ (split page.text).length) (idx : Nat) :
    (storedContent page span).map Prod.fst = scrubPii (Chunker.chunkAt page idx span).text := by
  rcases @JoinedWords.text_eq_place Nat 32 _ _ ordered inside with
    ⟨front, back, same, start, stop, _⟩
  rw [storedContent, Rule.map_fst_redactWindow, scrubPii]
  congr 1
  rw [pageText_eq, same, windowPlace, Span.slice, ← start, ← stop, ← List.append_assoc,
    ← List.length_append, List.take_left, List.drop_left]
  rfl

/-- What a pipeline with these patterns stores of the chunks of a page. -/
theorem map_text_scrub_chunksAt {pipeline : IngestionPipeline} {page : RawPage}
    (enabled : pipeline.config.piiScrubEnabled = true) (patterns : pipeline.scrubPii = scrubPii)
    {spans : List Span}
    (bounds : ∀ span ∈ spans, span.start < span.stop ∧ span.stop ≤ (split page.text).length)
    (idx : Nat) :
    (pipeline.scrub (Chunker.chunksAt page idx spans)).map TextChunk.text =
      spans.map fun span => (storedContent page span).map Prod.fst := by
  rw [IngestionPipeline.scrub, if_pos enabled, patterns, List.map_map]
  induction spans generalizing idx with
  | nil => rfl
  | cons span rest ih =>
      rw [List.forall_mem_cons] at bounds
      rw [Chunker.chunksAt, List.map_cons, List.map_cons, ih bounds.2,
        map_fst_storedContent bounds.1.1 bounds.1.2 idx]
      rfl

namespace Chunker

/-- The chunks of a document are those of its windows that are kept, and their scrubbed texts
are stored.  These have no matched characters of a word of a PII match exactly when the phone
numbers of all pages are whole. -/
theorem chunk_redacted_iff (chunker : Chunker) (nonneg : 0 ≤ chunker.overlap)
    (advances : chunker.overlap < chunker.size) (pages : List RawPage) :
    ∃ window, Fits chunker window ∧
      ∃ added : List (List TextChunk), parts chunker {} pages = some added ∧
        chunk chunker pages = some added.flatten ∧
        (∀ (index : Nat) (page : RawPage), pages[index]? = some page →
          ∃ idx, added[index]? =
              some (chunksAt page idx (keptSpans chunker window pages index page)) ∧
            ∀ span ∈ keptSpans chunker window pages index page, ∀ idx,
              (storedContent page span).map Prod.fst = scrubPii (chunkAt page idx span).text) ∧
        ((∀ (index : Nat) (page : RawPage), pages[index]? = some page →
            Redacted page (keptSpans chunker window pages index page)) ↔
          ∀ (index : Nat) (page : RawPage), pages[index]? = some page →
            PhonesWhole page (Chunked chunker window pages index page)) := by
  rcases exists_fits nonneg advances with ⟨window, fits⟩
  rcases parts_eq_some fits pages {} with ⟨added, collected, ⟨idx, folded⟩, _, each⟩
  have bounds : ∀ (index : Nat) (page : RawPage),
      ∀ span ∈ keptSpans chunker window pages index page,
        span.start < span.stop ∧ span.stop ≤ (split page.text).length := by
    intro index page span member
    rw [mem_keptSpans_iff] at member
    rcases member with ⟨words, count, exists', rfl, _⟩
    have advances := window.advances
    dsimp only
    rcases exists' with rfl | within
    · omega
    · omega
  refine ⟨window, fits, added, collected, ?_, ?_, ?_⟩
  · rw [chunk, folded]
    rfl
  · intro index page found
    rcases each index page found with ⟨start, same⟩
    refine ⟨start, ?_, ?_⟩
    · rw [same, keptSpans]
      simp only [true_and]
    · intro span member at'
      exact map_fst_storedContent (bounds index page span member).1 (bounds index page span member).2
        at'
  · refine forall_congr' fun index => forall_congr' fun page => imp_congr_right fun _ => ?_
    exact redacted_iff (fun _ => mem_keptSpans_iff) (bounds index page)

end Chunker

end Characters

/-! ### A number in two chunks -/

namespace Chunker

open Python (plainCharacters)

/-- Windows of two words. -/
def sampleNumbers : Chunker where
  size := 2
  overlap := 0
  minTokens := 0

/-- A phone number of three words behind another word. -/
def sampleNumberPage : RawPage where
  text := Text.ofString "call 415 202 0123"
  pageNumber := 1

theorem matchesAt_sampleNumberPage :
    phone.MatchesAt (@isWordCharacter plainCharacters) (pageText sampleNumberPage) ⟨5, 17⟩ := by
  refine ⟨Text.ofString "call ", Text.ofString "415 202 0123", [], by decide +kernel, by decide,
    by decide, ?_⟩
  have found : (Text.ofString "415 202 0123", []) ∈
      phone.pattern.splits (@isWordCharacter plainCharacters) false
        (Text.ofString "415 202 0123") := by
    decide +kernel
  have left : Regex.lastWord (@isWordCharacter plainCharacters) false (Text.ofString "call ") =
      false := by decide +kernel
  rw [Rule.MatchesIn, left]
  exact (Regex.mem_splits_iff.mp found).2

/-- The first chunk keeps the first word of the number. -/
theorem leaks_sampleNumberPage :
    @Leaks plainCharacters sampleNumberPage ⟨0, 2⟩ ⟨5, 17⟩ 1 := by
  unfold Leaks
  decide +kernel

theorem not_redacted_of_fits {window : WindowSize} (fits : Fits sampleNumbers window) :
    ¬@Redacted plainCharacters sampleNumberPage
      (keptSpans sampleNumbers window [sampleNumberPage] 0 sampleNumberPage) := by
  intro redacted
  have touches : Touches sampleNumberPage ⟨5, 17⟩ 1 := by
    refine ⟨by decide +kernel, 5, ⟨by decide, by decide⟩, ?_, ?_⟩
    · decide +kernel
    · decide +kernel
  apply redacted phone (by simp [piiPatterns]) _ matchesAt_sampleNumberPage 1 touches ⟨0, 2⟩ _
    leaks_sampleNumberPage
  have size : window.size = 2 := by
    have same : (2 : Int) = window.size := fits.size
    omega
  rw [mem_keptSpans_iff, Chunked, size]
  refine ⟨by decide +kernel, 0, .inl rfl, ?_, .inl ⟨?_, rfl⟩⟩
  · rw [Nat.zero_mul]
    decide +kernel
  · intro earlier member
    cases member

/-- The number is not redacted, although the windows move on. -/
theorem not_redacted_sampleNumbers :
    ¬∀ (characters : Python.CharacterData) (chunker : Chunker) (pages : List RawPage),
      0 ≤ chunker.overlap → chunker.overlap < chunker.size →
        ∀ window, Fits chunker window → ∀ (index : Nat) (page : RawPage),
          pages[index]? = some page →
            @Redacted characters page (keptSpans chunker window pages index page) := by
  intro all
  rcases exists_fits (by decide : 0 ≤ sampleNumbers.overlap)
    (by decide : sampleNumbers.overlap < sampleNumbers.size) with ⟨window, fits⟩
  exact not_redacted_of_fits fits
    (all plainCharacters sampleNumbers [sampleNumberPage] (by decide) (by decide) window fits 0 _ rfl)

/-- The number is not whole in the chunks. -/
theorem not_phonesWhole_sampleNumbers :
    ∃ window, Fits sampleNumbers window ∧
      ¬@PhonesWhole plainCharacters sampleNumberPage
        (Chunked sampleNumbers window [sampleNumberPage] 0 sampleNumberPage) := by
  rcases @chunk_redacted_iff plainCharacters sampleNumbers (by decide) (by decide)
    [sampleNumberPage] with ⟨window, fits, _, _, _, _, same⟩
  refine ⟨window, fits, ?_⟩
  intro whole
  apply not_redacted_of_fits fits
  apply same.mpr _ 0 sampleNumberPage rfl
  intro index page found
  cases index with
  | zero =>
      rcases Option.some.inj found with rfl
      exact whole
  | succ index => cases found

end Chunker

end Chitragupt
