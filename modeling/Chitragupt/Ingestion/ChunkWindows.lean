import Chitragupt.Ingestion.Chunker
import Chitragupt.Lib.SlidingWindow

/-!
# The windows of the chunker

Where the windows reach beyond the overlap, the loop of a page goes through the sliding
windows of its words.  A window becomes a chunk if it is large enough, or if there is no
chunk yet.  From this follow what the chunks of a page give back, which words are lost, and
when chunking ends.
-/

namespace Chitragupt

open Python (IsWord split)

namespace Chunker

/-! ## The loop and the sliding windows -/

theorem slice_natCast {α : Type} (items : List α) (span : Span) :
    Python.slice items span.start span.stop = span.slice items := by
  have start : ¬(span.start : Int) < 0 := Int.natCast_nonneg _ |>.not_gt
  have stop : ¬(span.stop : Int) < 0 := Int.natCast_nonneg _ |>.not_gt
  rw [Python.slice, Span.slice]
  dsimp only
  rw [if_neg start, if_neg stop, Int.toNat_natCast, Int.toNat_natCast]

/-- The windows of a configuration that moves on. -/
structure Fits (chunker : Chunker) (window : WindowSize) : Prop where
  size : chunker.size = window.size
  overlap : chunker.overlap = window.overlap

theorem exists_fits {chunker : Chunker} (nonneg : 0 ≤ chunker.overlap)
    (advances : chunker.overlap < chunker.size) : ∃ window, Fits chunker window := by
  refine ⟨⟨chunker.size.toNat, chunker.overlap.toNat, ?_⟩, ?_, ?_⟩
  · omega
  · exact (Int.toNat_of_nonneg (nonneg.trans advances.le)).symm
  · exact (Int.toNat_of_nonneg nonneg).symm

section Loop

variable {chunker : Chunker} {window : WindowSize}

/-- Add the window at some positions. -/
def addSpan (chunker : Chunker) (page : RawPage) (tokens : List Text) (progress : Progress)
    (span : Span) : Progress :=
  addWindow chunker page (span.slice tokens) progress

/-- The loop of a page adds its sliding windows one by one. -/
theorem windows_eq_foldl (fits : Fits chunker window) {page : RawPage} {tokens : List Text}
    {rounds start : Nat} {progress : Progress} (inside : start < tokens.length)
    (enough : tokens.length < start + rounds) :
    windows chunker page tokens rounds start progress =
      some ((window.spans tokens.length start).foldl (addSpan chunker page tokens) progress) := by
  have advances := window.advances
  induction rounds generalizing start progress with
  | zero => omega
  | succ rounds ih =>
      rw [windows, if_pos (by exact_mod_cast inside), WindowSize.spans, fits.size, fits.overlap]
      dsimp only
      split
      next last =>
        have done : ¬start + window.size < tokens.length := by omega
        rw [if_neg done, List.foldl_cons, List.foldl_nil, last, addSpan, ← slice_natCast]
      next further =>
        have more : start + window.size < tokens.length := by omega
        have stop : min ((start : Int) + window.size) tokens.length =
            ((start + window.size : Nat) : Int) := by omega
        have next : ((start + window.size : Nat) : Int) - window.overlap =
            ((start + window.size - window.overlap : Nat) : Int) := by omega
        rw [if_pos more, List.foldl_cons, stop, next, ih (by omega) (by omega), addSpan,
          ← slice_natCast]

end Loop

/-! ## The chunks of a page -/

section Pages

variable (chunker : Chunker)

/-- The windows that become chunks: the large ones, and the first if there is no chunk yet. -/
def keep : Bool → List Span → List Span
  | _, [] => []
  | first, span :: rest =>
      if chunker.minTokens ≤ span.length ∨ first = true then span :: keep false rest
      else keep first rest

/-- The chunk of a window. -/
def chunkAt (page : RawPage) (idx : Nat) (span : Span) : TextChunk where
  text := List.intercalate (Text.ofString " ") (span.slice (split page.text))
  chunkIndex := idx
  tokenCount := span.length
  sectionTitle := page.sectionTitle
  pageNumber := some page.pageNumber

/-- The chunks of some windows, numbered from an index on. -/
def chunksAt (page : RawPage) : Nat → List Span → List TextChunk
  | _, [] => []
  | idx, span :: rest => chunkAt page idx span :: chunksAt page (idx + 1) rest

/-- The windows of a page, if it has words. -/
def pageSpans (window : WindowSize) (page : RawPage) : List Span :=
  if split page.text = [] then [] else window.spans (split page.text).length 0

/-- The chunks that each page adds, unless one of the loops never ends. -/
def parts : Progress → List RawPage → Option (List (List TextChunk))
  | _, [] => some []
  | progress, page :: pages =>
      (chunkPage chunker progress page).bind fun after =>
        (parts after pages).map (after.chunks.drop progress.chunks.length :: ·)

end Pages

section Fold

variable {chunker : Chunker} {window : WindowSize}

theorem foldl_addSpan {page : RawPage} {spans : List Span}
    (inside : ∀ span ∈ spans, span.stop ≤ (split page.text).length) (progress : Progress) :
    spans.foldl (addSpan chunker page (split page.text)) progress =
      { chunks := progress.chunks ++
          chunksAt page progress.idx (keep chunker (decide (progress.chunks = [])) spans)
        idx := progress.idx + (keep chunker (decide (progress.chunks = [])) spans).length } := by
  induction spans generalizing progress with
  | nil => simp [keep, chunksAt]
  | cons span rest ih =>
      rw [List.forall_mem_cons] at inside
      have length : (span.slice (split page.text)).length = span.length :=
        Span.length_slice inside.1
      simp only [List.foldl_cons, keep, addSpan, addWindow, length, decide_eq_true_iff]
      split
      next kept =>
        rw [ih inside.2]
        simp [chunksAt, chunkAt, Nat.add_assoc, Nat.add_comm 1]
      next dropped => exact ih inside.2 progress

theorem pageSpans_bounds {page : RawPage} {span : Span} (member : span ∈ pageSpans window page) :
    span.start < span.stop ∧ span.stop ≤ (split page.text).length ∧
      span.length ≤ window.size := by
  rw [pageSpans] at member
  split at member
  next empty => cases member
  next words =>
    have some' : 0 < (split page.text).length := List.length_pos_iff.mpr words
    have bounds := WindowSize.bounds_of_mem some' member
    rw [Span.length]
    omega

/-- What a page adds. -/
theorem chunkPage_eq (fits : Fits chunker window) (progress : Progress) (page : RawPage) :
    chunkPage chunker progress page =
      some
        { chunks := progress.chunks ++ chunksAt page progress.idx
            (keep chunker (decide (progress.chunks = [])) (pageSpans window page))
          idx := progress.idx +
            (keep chunker (decide (progress.chunks = [])) (pageSpans window page)).length } := by
  have inside : ∀ span ∈ pageSpans window page, span.stop ≤ (split page.text).length :=
    fun span member => (pageSpans_bounds member).2.1
  rw [← foldl_addSpan inside, chunkPage, pageSpans]
  split
  next empty => rfl
  next words =>
    have some' : 0 < (split page.text).length := List.length_pos_iff.mpr words
    exact windows_eq_foldl fits some' (by omega)

/-- The first window of a page is kept if there is no chunk yet. -/
theorem keep_true_eq_nil_iff {spans : List Span} : keep chunker true spans = [] ↔ spans = [] := by
  cases spans with
  | nil => simp [keep]
  | cons span rest => simp [keep]

theorem pageSpans_eq_nil_iff {page : RawPage} :
    pageSpans window page = [] ↔ split page.text = [] := by
  rw [pageSpans]
  split
  next empty => simp [empty]
  next words =>
    rcases @WindowSize.spans_eq_cons window (split page.text).length 0 with ⟨rest, first⟩
    simp [first, words]

/-- No page in front of this one has words. -/
def Opens (pages : List RawPage) (index : Nat) : Prop :=
  ∀ earlier ∈ pages.take index, split earlier.text = []

instance (pages : List RawPage) (index : Nat) : Decidable (Opens pages index) :=
  inferInstanceAs (Decidable (∀ earlier ∈ pages.take index, split earlier.text = []))

theorem chunksAt_eq_nil_iff {page : RawPage} {idx : Nat} {spans : List Span} :
    chunksAt page idx spans = [] ↔ spans = [] := by
  cases spans <;> simp [chunksAt]

/-- After a page without words there is still no chunk, after any other there is one. -/
theorem added_eq_nil_iff {page : RawPage} {pages : List RawPage} {idx index : Nat}
    {chunks : List TextChunk} :
    chunks ++ chunksAt page idx (keep chunker (decide (chunks = [])) (pageSpans window page)) =
        [] ∧ Opens pages index ↔
      chunks = [] ∧ Opens (page :: pages) (index + 1) := by
  rw [List.append_eq_nil_iff, chunksAt_eq_nil_iff, and_assoc, Opens, Opens, List.take_succ_cons,
    List.forall_mem_cons]
  refine and_congr_right fun none' => and_congr_left fun _ => ?_
  rw [decide_eq_true none', keep_true_eq_nil_iff, pageSpans_eq_nil_iff]

/-- What the pages add, one after the other. -/
theorem parts_eq_some (fits : Fits chunker window) (pages : List RawPage)
    (progress : Progress) :
    ∃ added, parts chunker progress pages = some added ∧
      (∃ idx, pages.foldlM (chunkPage chunker) progress =
        some { chunks := progress.chunks ++ added.flatten, idx }) ∧
      added.length = pages.length ∧
      ∀ (index : Nat) (page : RawPage), pages[index]? = some page →
        ∃ idx, added[index]? = some (chunksAt page idx
          (keep chunker (decide (progress.chunks = [] ∧ Opens pages index))
            (pageSpans window page))) := by
  induction pages generalizing progress with
  | nil => exact ⟨[], rfl, ⟨progress.idx, by simp⟩, rfl, by simp⟩
  | cons page pages ih =>
      have here := chunkPage_eq fits progress page
      generalize kept : keep chunker (decide (progress.chunks = [])) (pageSpans window page) =
        spans at here
      rcases ih { chunks := progress.chunks ++ chunksAt page progress.idx spans
                  idx := progress.idx + spans.length } with
        ⟨added, later, ⟨idx, folded⟩, length, each⟩
      refine ⟨chunksAt page progress.idx spans :: added, ?_, ⟨idx, ?_⟩, ?_, ?_⟩
      · rw [parts, here, Option.bind_some, later, Option.map_some, List.drop_left]
      · rw [List.foldlM_cons, here]
        change pages.foldlM (chunkPage chunker) _ = _
        rw [folded, List.flatten_cons, List.append_assoc]
      · rw [List.length_cons, List.length_cons, length]
      · intro index other found
        cases index with
        | zero =>
            rcases Option.some.inj found with rfl
            refine ⟨progress.idx, ?_⟩
            have first : Opens (page :: pages) 0 := by
              intro earlier member
              cases member
            rw [List.getElem?_cons_zero, ← kept]
            simp only [first, and_true]
        | succ index =>
            rw [List.getElem?_cons_succ] at found ⊢
            rcases each index other found with ⟨idx, at'⟩
            refine ⟨idx, ?_⟩
            rw [at', ← kept]
            simp only [added_eq_nil_iff]

end Fold

/-! ## Loops that end -/

/-- The loop of a page ends, whatever chunks there are already. -/
def LoopEnds (chunker : Chunker) (page : RawPage) : Prop :=
  ∀ progress, ∃ rounds after,
    windows chunker page (split page.text) rounds 0 progress = some after

/-- The windows move on, or one of them is enough for the page. -/
def Bounded (chunker : Chunker) (page : RawPage) : Prop :=
  chunker.overlap < chunker.size ∨ split page.text = [] ∨
    (split page.text).length ≤ chunker.size

instance (chunker : Chunker) (page : RawPage) : Decidable (Bounded chunker page) :=
  inferInstanceAs (Decidable (_ ∨ _ ∨ _))

theorem exists_windows_iff (chunker : Chunker) (page : RawPage) (progress : Progress) :
    (∃ rounds after, windows chunker page (split page.text) rounds 0 progress = some after) ↔
      Bounded chunker page := by
  constructor
  · rintro ⟨rounds, after, ended⟩
    by_contra stuck
    rw [Bounded, not_or, not_or, not_lt, not_le] at stuck
    rcases stuck with ⟨stays, words, long⟩
    have some' : 0 < (split page.text).length := List.length_pos_iff.mpr words
    have endless : windows chunker page (split page.text) rounds 0 progress = none := by
      apply windows_eq_none chunker stays
      · rwa [zero_add]
      · exact_mod_cast some'
    rw [endless] at ended
    cases ended
  · intro bounded
    rcases bounded with advances | empty | short
    · exact ⟨_, exists_windows chunker advances ((split page.text).length + 1) 0 progress
        (by omega) (Nat.succ_pos _)⟩
    · refine ⟨1, progress, ?_⟩
      rw [windows, if_neg]
      simp [empty]
    · refine ⟨1, ?_⟩
      rw [windows]
      split
      next inside =>
        dsimp only
        rw [if_pos (by omega)]
        exact ⟨_, rfl⟩
      next outside => exact ⟨_, rfl⟩

theorem loopEnds_iff (chunker : Chunker) (page : RawPage) :
    LoopEnds chunker page ↔ Bounded chunker page := by
  simp only [LoopEnds, exists_windows_iff]
  exact ⟨fun all => all {}, fun bounded _ => bounded⟩

/-- The loops of a document all end exactly when the windows reach beyond the overlap, or no
page is longer than one window. -/
theorem forall_loopEnds_iff (chunker : Chunker) (pages : List RawPage) :
    (∀ page ∈ pages, LoopEnds chunker page) ↔
      chunker.overlap < chunker.size ∨
        ∀ page ∈ pages, split page.text = [] ∨
          (split page.text).length ≤ chunker.size := by
  simp only [loopEnds_iff, Bounded]
  by_cases advances : chunker.overlap < chunker.size
  · simp [advances]
  · simp [advances]

theorem isSome_chunkPage_iff (chunker : Chunker) (progress : Progress) (page : RawPage) :
    (chunkPage chunker progress page).isSome = true ↔ LoopEnds chunker page := by
  rw [loopEnds_iff, ← exists_windows_iff chunker page progress, chunkPage,
    Option.isSome_iff_exists]
  split
  next empty =>
    have ends := (exists_windows_iff chunker page progress).mpr (.inr (.inl empty))
    exact iff_of_true ⟨progress, rfl⟩ ends
  next words =>
    rw [exists_comm]
    exact exists_congr fun after => windows_eq_some_iff chunker

/-- The chunker has a result exactly when all loops end. -/
theorem isSome_chunk_iff (chunker : Chunker) (pages : List RawPage) :
    (chunk chunker pages).isSome = true ↔ ∀ page ∈ pages, LoopEnds chunker page := by
  have general : ∀ (pages : List RawPage) (progress : Progress),
      (pages.foldlM (chunkPage chunker) progress).isSome = true ↔
        ∀ page ∈ pages, LoopEnds chunker page := by
    intro pages
    induction pages with
    | nil => simp
    | cons page pages ih =>
        intro progress
        rw [List.forall_mem_cons, List.foldlM_cons, ← isSome_chunkPage_iff chunker progress page]
        cases chunkPage chunker progress page with
        | none => simp
        | some after => simpa using ih after
  rw [chunk, Option.isSome_map]
  exact general pages {}

/-- A page of two words and windows of one word that repeat it. -/
theorem not_loopEnds_of_full_overlap :
    ¬∀ (chunker : Chunker) (pages : List RawPage), ∀ page ∈ pages, LoopEnds chunker page := by
  intro all
  have ends := all { size := 1, overlap := 1, minTokens := 0 }
    [{ text := Text.ofString "a b", pageNumber := 1 }] _ (List.mem_singleton_self _)
  rw [loopEnds_iff] at ends
  revert ends
  decide +kernel

end Chunker

end Chitragupt
