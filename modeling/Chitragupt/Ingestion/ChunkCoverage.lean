import Chitragupt.Ingestion.ChunkWindows

/-!
# What the chunks of a page hold

With a minimum that every window behind the first reaches, the chunks of a page give back
its words, unless the page is too short and another page with words is in front of it.  For
any minimum, a word is in a chunk exactly when one of its windows is large enough or opens
the document.
-/

namespace Chitragupt

open Python (IsWord split)

namespace Chunker

/-! ## The words of a chunk -/

theorem split_chunkAt (page : RawPage) (idx : Nat) (span : Span) :
    split (chunkAt page idx span).text = span.slice (split page.text) := by
  apply Python.split_intercalate
  intro word member
  exact Python.isWord_of_mem_split (List.mem_of_mem_take (List.mem_of_mem_drop member))

theorem mem_chunksAt {page : RawPage} {idx : Nat} {spans : List Span} {chunk : TextChunk}
    (member : chunk ∈ chunksAt page idx spans) :
    ∃ span ∈ spans, ∃ at', chunk = chunkAt page at' span := by
  induction spans generalizing idx with
  | nil => cases member
  | cons span rest ih =>
      rw [chunksAt, List.mem_cons] at member
      cases member with
      | inl here => exact ⟨span, List.mem_cons_self, idx, here⟩
      | inr later =>
          rcases ih later with ⟨other, there, at', same⟩
          exact ⟨other, List.mem_cons_of_mem _ there, at', same⟩

theorem map_split_chunksAt (page : RawPage) (idx : Nat) (spans : List Span) :
    ((chunksAt page idx spans).map fun chunk => split chunk.text) =
      spans.map (·.slice (split page.text)) := by
  induction spans generalizing idx with
  | nil => rfl
  | cons span rest ih => rw [chunksAt, List.map_cons, List.map_cons, split_chunkAt, ih]

/-- A relation between neighbouring windows carries to their chunks. -/
theorem isChain_chunksAt {page : RawPage} {relation : Span → Span → Prop}
    {related : TextChunk → TextChunk → Prop}
    (carries : ∀ span next idx after, relation span next →
      related (chunkAt page idx span) (chunkAt page after next))
    {spans : List Span} (chain : spans.IsChain relation) (idx : Nat) :
    (chunksAt page idx spans).IsChain related := by
  induction chain generalizing idx with
  | nil => exact List.isChain_nil
  | singleton span => exact List.isChain_singleton _
  | cons_cons first _ ih => exact List.IsChain.cons_cons (carries _ _ _ _ first) (ih (idx + 1))

/-! ## Pages that are given back -/

/-- The chunks of a page give back its words: each has its source and between one and `size`
words, neighbours share `overlap` words, and without these they join up to the page. -/
structure Reconstructs (chunker : Chunker) (page : RawPage) (part : List TextChunk) : Prop where
  sources : ∀ chunk ∈ part, chunk.pageNumber = some page.pageNumber ∧
    chunk.sectionTitle = page.sectionTitle
  sizes : ∀ chunk ∈ part, chunk.tokenCount = (split chunk.text).length ∧
    1 ≤ chunk.tokenCount ∧ chunk.tokenCount ≤ chunker.size
  shared : part.IsChain fun chunk next =>
    chunker.overlap ≤ chunk.tokenCount ∧ chunker.overlap ≤ next.tokenCount ∧
      (split chunk.text).drop (chunk.tokenCount - chunker.overlap.toNat) =
        (split next.text).take chunker.overlap.toNat
  whole : WindowSize.reassemble chunker.overlap.toNat (part.map fun chunk => split chunk.text) =
    split page.text

section Windows

variable {chunker : Chunker} {window : WindowSize}

/-- All windows of a page give it back. -/
theorem reconstructs_pageSpans (fits : Fits chunker window) (page : RawPage) (idx : Nat) :
    Reconstructs chunker page (chunksAt page idx (pageSpans window page)) where
  sources chunk member := by
    rcases mem_chunksAt member with ⟨span, _, at', rfl⟩
    exact ⟨rfl, rfl⟩
  sizes chunk member := by
    rcases mem_chunksAt member with ⟨span, present, at', rfl⟩
    have bounds := pageSpans_bounds present
    rw [split_chunkAt, Span.length_slice bounds.2.1, fits.size]
    rw [Span.length] at bounds
    rw [chunkAt, Span.length]
    dsimp only
    omega
  shared := by
    have overlap : chunker.overlap.toNat = window.overlap := by rw [fits.overlap, Int.toNat_natCast]
    rw [pageSpans]
    split
    next empty => exact List.isChain_nil
    next words =>
      apply isChain_chunksAt _ WindowSize.isChain_spans
      intro span next at' after follows
      rw [split_chunkAt, split_chunkAt, overlap, fits.overlap]
      refine ⟨?_, ?_, follows.slice_eq⟩
      · have moves := follows.moves
        have same := follows.shared
        rw [chunkAt, Span.length]
        dsimp only
        omega
      · have reaches := follows.reaches
        have same := follows.shared
        rw [chunkAt, Span.length]
        dsimp only
        omega
  whole := by
    rw [map_split_chunksAt, fits.overlap, Int.toNat_natCast, pageSpans]
    split
    next empty => rw [empty]; rfl
    next words =>
      rw [WindowSize.reassemble_spans (List.length_pos_iff.mpr words), List.drop_zero]

/-- All windows are kept when those behind the first are large enough and the first is, or
opens the document. -/
theorem keep_eq_self {first : Bool} {spans : List Span}
    (tail : ∀ span ∈ spans.tail, chunker.minTokens ≤ span.length)
    (head : first = true ∨ ∀ span ∈ spans.head?, chunker.minTokens ≤ span.length) :
    keep chunker first spans = spans := by
  have large : ∀ spans : List Span, (∀ span ∈ spans, chunker.minTokens ≤ span.length) →
      keep chunker false spans = spans := by
    intro spans
    induction spans with
    | nil => exact fun _ => rfl
    | cons span rest ih =>
        intro all
        rw [List.forall_mem_cons] at all
        rw [keep, if_pos (.inl all.1), ih all.2]
  cases spans with
  | nil => rfl
  | cons span rest =>
      have kept : chunker.minTokens ≤ span.length ∨ first = true := by
        cases head with
        | inl opens => exact .inr opens
        | inr enough => exact .inl (enough span rfl)
      rw [keep, if_pos kept, large rest tail]

/-- The windows of a page without words, or of a page with words. -/
theorem pageSpans_cases (window : WindowSize) (page : RawPage) :
    (split page.text = [] ∧ pageSpans window page = []) ∨
      (0 < (split page.text).length ∧
        ∃ rest, pageSpans window page =
          ⟨0, min window.size (split page.text).length⟩ :: rest ∧
            (∀ span ∈ rest, window.overlap < span.length) ∧
            ((split page.text).length ≤ window.size → rest = [])) := by
  rw [pageSpans]
  split
  next empty => exact .inl ⟨empty, rfl⟩
  next words =>
    right
    refine ⟨List.length_pos_iff.mpr words, ?_⟩
    rcases @WindowSize.spans_eq_cons window (split page.text).length 0 with ⟨rest, first⟩
    rw [zero_add] at first
    refine ⟨rest, first, ?_, ?_⟩
    · intro span member
      apply @WindowSize.overlap_lt_length_of_mem_tail window (split page.text).length 0
      rwa [first]
    · intro short
      rw [WindowSize.spans, if_neg (by omega)] at first
      exact (List.cons.inj first).2.symm

variable (fits : Fits chunker window) (reached : chunker.minTokens ≤ chunker.overlap + 1)

include fits reached in
/-- A page that opens the document or has enough words keeps all its windows. -/
theorem keep_pageSpans {page : RawPage} {first : Bool}
    (retained : first = true ∨ chunker.minTokens ≤ (split page.text).length) :
    keep chunker first (pageSpans window page) = pageSpans window page := by
  have advances := window.advances
  rw [fits.overlap] at reached
  rcases pageSpans_cases window page with ⟨_, none'⟩ | ⟨some', rest, spans, large, _⟩
  · rw [none', keep]
  · rw [spans]
    apply keep_eq_self
    · intro span member
      have larger := large span member
      omega
    · cases retained with
      | inl opens => exact .inl opens
      | inr enough =>
          right
          intro span member
          rcases Option.some.inj member with rfl
          rw [Span.length]
          dsimp only
          omega

include fits reached in
/-- Any other page has at most one window, and drops it. -/
theorem keep_pageSpans_eq_nil {page : RawPage}
    (few : (split page.text).length < chunker.minTokens) :
    keep chunker false (pageSpans window page) = [] := by
  have advances := window.advances
  rw [fits.overlap] at reached
  rcases pageSpans_cases window page with ⟨_, none'⟩ | ⟨some', rest, spans, _, single⟩
  · rw [none', keep]
  · rw [spans, single (by omega), keep, if_neg, keep]
    rw [Span.length]
    dsimp only
    simp only [Bool.false_eq_true, or_false]
    omega

end Windows

/-- A page whose words are given back: it opens the document, or has enough words. -/
def Retained (chunker : Chunker) (pages : List RawPage) (index : Nat) (page : RawPage) : Prop :=
  Opens pages index ∧ split page.text ≠ [] ∨ chunker.minTokens ≤ (split page.text).length

instance (chunker : Chunker) (pages : List RawPage) (index : Nat) (page : RawPage) :
    Decidable (Retained chunker pages index page) :=
  inferInstanceAs (Decidable (_ ∨ _))

/-- The chunks of a document are numbered from zero.  The pages that are retained are given
back by their chunks, and the others have none. -/
theorem chunk_reconstructs (chunker : Chunker) (nonneg : 0 ≤ chunker.overlap)
    (advances : chunker.overlap < chunker.size)
    (reached : chunker.minTokens ≤ chunker.overlap + 1) (pages : List RawPage) :
    ∃ added : List (List TextChunk), parts chunker {} pages = some added ∧
      chunk chunker pages = some added.flatten ∧
      added.flatten.map TextChunk.chunkIndex = List.range added.flatten.length ∧
      added.length = pages.length ∧
      ∀ (index : Nat) (page : RawPage) (part : List TextChunk), pages[index]? = some page →
        added[index]? = some part →
          (Retained chunker pages index page → Reconstructs chunker page part) ∧
            (¬Retained chunker pages index page → part = []) := by
  rcases exists_fits nonneg advances with ⟨window, fits⟩
  rcases parts_eq_some fits pages {} with ⟨added, collected, ⟨idx, folded⟩, length, each⟩
  have chunks : chunk chunker pages = some added.flatten := by
    rw [chunk, folded]
    rfl
  refine ⟨added, collected, chunks, map_chunkIndex_chunk chunker chunks, length, ?_⟩
  intro index page part found here
  rcases each index page found with ⟨start, same⟩
  rw [same, Option.some.injEq] at here
  subst here
  constructor
  · intro retained
    by_cases words : split page.text = []
    · have none' : pageSpans window page = [] := pageSpans_eq_nil_iff.mpr words
      have all := reconstructs_pageSpans fits page start
      rw [none'] at all ⊢
      exact all
    · rw [keep_pageSpans fits reached]
      · exact reconstructs_pageSpans fits page start
      · rw [decide_eq_true_iff]
        exact retained.imp_left fun opens => ⟨rfl, opens.1⟩
  · intro dropped
    rw [Retained, not_or, not_and_or, not_not, not_le] at dropped
    rw [chunksAt_eq_nil_iff]
    cases dropped.1 with
    | inl later =>
        simp only [later, and_false, decide_false]
        exact keep_pageSpans_eq_nil fits reached dropped.2
    | inr empty => rw [pageSpans_eq_nil_iff.mpr empty, keep]

/-! ## Words that are lost -/

section Coverage

variable {chunker : Chunker} {window : WindowSize}

/-- The windows of a page that become chunks. -/
def keptSpans (chunker : Chunker) (window : WindowSize) (pages : List RawPage) (index : Nat)
    (page : RawPage) : List Span :=
  keep chunker (decide (Opens pages index)) (pageSpans window page)

theorem mem_keep {first : Bool} {span other : Span} {rest : List Span} :
    other ∈ keep chunker first (span :: rest) ↔
      first = true ∧ other = span ∨
        other ∈ span :: rest ∧ chunker.minTokens ≤ other.length := by
  have large : ∀ spans : List Span, other ∈ keep chunker false spans ↔
      other ∈ spans ∧ chunker.minTokens ≤ other.length := by
    intro spans
    induction spans with
    | nil => simp [keep]
    | cons span rest ih =>
        rw [keep]
        split
        next kept =>
          have enough : chunker.minTokens ≤ span.length := by simpa using kept
          rw [List.mem_cons, List.mem_cons, ih, or_and_right]
          exact or_congr_left ⟨fun same => ⟨same, same ▸ enough⟩, And.left⟩
        next dropped =>
          have few : ¬chunker.minTokens ≤ span.length := by simpa using dropped
          rw [ih, List.mem_cons, or_and_right]
          have apart : ¬(other = span ∧ chunker.minTokens ≤ other.length) := by
            rintro ⟨rfl, enough⟩
            exact few enough
          exact (or_iff_right apart).symm
  cases first with
  | false => simpa using large (span :: rest)
  | true =>
      rw [keep, if_pos (.inr rfl), List.mem_cons, large, List.mem_cons, or_and_right]
      tauto

/-- The words of a page that its windows with enough words hold, or its first window when it
opens the document. -/
def Covered (chunker : Chunker) (window : WindowSize) (pages : List RawPage) (index : Nat)
    (page : RawPage) (position : Nat) : Prop :=
  Opens pages index ∧ position < window.size ∨
    ∃ count,
      (count = 0 ∨ count * (window.size - window.overlap) + window.overlap <
        (split page.text).length) ∧
      count * (window.size - window.overlap) ≤ position ∧
      position < count * (window.size - window.overlap) + window.size ∧
      chunker.minTokens ≤ (min window.size
        ((split page.text).length - count * (window.size - window.overlap)) : Nat)

/-- A window of a page that becomes a chunk: the one of some number, if it is large enough or
the first of the document. -/
def Chunked (chunker : Chunker) (window : WindowSize) (pages : List RawPage) (index : Nat)
    (page : RawPage) (span : Span) : Prop :=
  0 < (split page.text).length ∧ ∃ count,
    (count = 0 ∨ count * (window.size - window.overlap) + window.overlap <
      (split page.text).length) ∧
    span = ⟨count * (window.size - window.overlap),
      min (count * (window.size - window.overlap) + window.size) (split page.text).length⟩ ∧
    (Opens pages index ∧ count = 0 ∨ chunker.minTokens ≤ span.length)

theorem mem_keptSpans_iff {pages : List RawPage} {index : Nat} {page : RawPage} {span : Span} :
    span ∈ keptSpans chunker window pages index page ↔
      Chunked chunker window pages index page span := by
  rw [keptSpans, Chunked]
  by_cases empty : split page.text = []
  · rw [pageSpans_eq_nil_iff.mpr empty, keep, empty]
    simp
  · have words : 0 < (split page.text).length := List.length_pos_iff.mpr empty
    rcases @WindowSize.spans_eq_cons window (split page.text).length 0 with ⟨rest, first⟩
    have spans : pageSpans window page = _ := (if_neg empty).trans first
    rw [spans, mem_keep, ← first, decide_eq_true_iff, WindowSize.mem_spans_iff, and_iff_right words]
    simp only [zero_add]
    constructor
    · rintro (⟨opens, rfl⟩ | ⟨⟨count, exists', rfl⟩, enough⟩)
      · exact ⟨0, .inl rfl, by simp, .inl ⟨opens, rfl⟩⟩
      · exact ⟨count, exists', rfl, .inr enough⟩
    · rintro ⟨count, exists', rfl, ⟨opens, rfl⟩ | enough⟩
      · exact .inl ⟨opens, by simp⟩
      · exact .inr ⟨⟨count, exists', rfl⟩, enough⟩

theorem exists_keptSpans_iff {pages : List RawPage} {index : Nat} {page : RawPage}
    {position : Nat} (inside : position < (split page.text).length) :
    (∃ span ∈ keptSpans chunker window pages index page, span.Holds position) ↔
      Covered chunker window pages index page position := by
  simp only [mem_keptSpans_iff, Chunked]
  rw [Covered]
  constructor
  · rintro ⟨_, ⟨_, count, exists', rfl, kept⟩, after, before⟩
    dsimp only at after before
    rcases kept with ⟨opens, rfl⟩ | enough
    · left
      exact ⟨opens, by omega⟩
    · right
      refine ⟨count, exists', after, lt_of_lt_of_le before (min_le_left _ _), ?_⟩
      rw [Span.length] at enough
      dsimp only at enough
      omega
  · rintro (⟨opens, early⟩ | ⟨count, exists', after, before, enough⟩)
    · refine ⟨_, ⟨by omega, 0, .inl rfl, rfl, .inl ⟨opens, rfl⟩⟩, ?_, ?_⟩
      · dsimp only
        omega
      · dsimp only
        omega
    · refine ⟨_, ⟨by omega, count, exists', rfl, .inr ?_⟩, after, lt_min before inside⟩
      rw [Span.length]
      dsimp only
      omega

end Coverage

/-- The chunks of a page are the windows that are large enough, and the first window of the
document.  Every word lies in a window, and it is in a chunk exactly when it is covered. -/
theorem chunk_covers (chunker : Chunker) (nonneg : 0 ≤ chunker.overlap)
    (advances : chunker.overlap < chunker.size) (pages : List RawPage) :
    ∃ window, Fits chunker window ∧
      ∃ added : List (List TextChunk), parts chunker {} pages = some added ∧
        chunk chunker pages = some added.flatten ∧
        ∀ (index : Nat) (page : RawPage), pages[index]? = some page →
          ∃ idx, added[index]? =
              some (chunksAt page idx (keptSpans chunker window pages index page)) ∧
            ∀ position < (split page.text).length,
              (∃ span ∈ pageSpans window page, span.Holds position) ∧
                ((∃ span ∈ keptSpans chunker window pages index page, span.Holds position) ↔
                  Covered chunker window pages index page position) := by
  rcases exists_fits nonneg advances with ⟨window, fits⟩
  rcases parts_eq_some fits pages {} with ⟨added, collected, ⟨idx, folded⟩, _, each⟩
  refine ⟨window, fits, added, collected, ?_, ?_⟩
  · rw [chunk, folded]
    rfl
  · intro index page found
    rcases each index page found with ⟨start, same⟩
    refine ⟨start, ?_, ?_⟩
    · rw [same, keptSpans]
      simp only [true_and]
    · intro position inside
      refine ⟨?_, exists_keptSpans_iff inside⟩
      have words : split page.text ≠ [] := List.length_pos_iff.mp (by omega)
      rw [pageSpans, if_neg words]
      exact WindowSize.exists_holds (Nat.zero_le position) inside

/-! ### A short section -/

/-- Windows of three words, of which neighbours share one. -/
def sampleSections : Chunker where
  size := 3
  overlap := 1
  minTokens := 2

/-- A section of four words and a section of one. -/
def samplePages : List RawPage :=
  [{ text := Text.ofString "scope of the project", pageNumber := 1 },
    { text := Text.ofString "none", pageNumber := 2 }]

/-- The first section is given back by two chunks, the second has none. -/
theorem chunk_reconstructs_samplePages :
    ∃ added : List (List TextChunk), chunk sampleSections samplePages = some added.flatten ∧
      ∃ first second, added = [first, second] ∧
        Reconstructs sampleSections { text := Text.ofString "scope of the project", pageNumber := 1 }
          first ∧ second = [] := by
  rcases chunk_reconstructs sampleSections (by decide) (by decide) (by decide) samplePages with
    ⟨added, _, chunks, _, length, each⟩
  rcases List.length_eq_two.mp length with ⟨first, second, rfl⟩
  refine ⟨_, chunks, first, second, rfl, (each 0 _ first rfl rfl).1 ?_, (each 1 _ second rfl rfl).2 ?_⟩
  · decide +kernel
  · decide +kernel

/-- The word of the second section is in no chunk. -/
theorem not_covered_samplePages :
    ¬∀ (chunker : Chunker) (pages : List RawPage), 0 ≤ chunker.overlap →
      chunker.overlap < chunker.size → ∀ chunks, chunk chunker pages = some chunks →
        ∀ page ∈ pages, ∀ word ∈ split page.text,
          ∃ chunk ∈ chunks, word ∈ split chunk.text := by
  intro all
  rcases Option.isSome_iff_exists.mp (by decide +kernel :
    (chunk sampleSections samplePages).isSome = true) with ⟨chunks, found⟩
  have absent : ∀ made ∈ (chunk sampleSections samplePages).getD [],
      Text.ofString "none" ∉ split made.text := by decide +kernel
  rw [found, Option.getD_some] at absent
  rcases all sampleSections samplePages (by decide) (by decide) chunks found
    { text := Text.ofString "none", pageNumber := 2 } (by simp [samplePages])
    (Text.ofString "none") (by decide +kernel) with ⟨made, member, present⟩
  exact absent made member present

/-- The words of the first section are covered. -/
theorem chunk_covers_samplePages :
    ∃ window, Fits sampleSections window ∧
      ∃ added : List (List TextChunk), parts sampleSections {} samplePages = some added ∧
        chunk sampleSections samplePages = some added.flatten ∧
        ∀ (index : Nat) (page : RawPage), samplePages[index]? = some page →
          ∃ idx, added[index]? =
              some (chunksAt page idx (keptSpans sampleSections window samplePages index page)) ∧
            ∀ position < (split page.text).length,
              (∃ span ∈ pageSpans window page, span.Holds position) ∧
                ((∃ span ∈ keptSpans sampleSections window samplePages index page,
                    span.Holds position) ↔
                  Covered sampleSections window samplePages index page position) :=
  chunk_covers sampleSections (by decide) (by decide) samplePages

end Chunker

end Chitragupt
