import Chitragupt.Lib.Conversion

/-!
# The sliding-window chunker

The chunker cuts each page into overlapping windows of words.  Its parameters may be any
integers; where a window does not reach beyond the overlap, the loop of a page that is
longer than one window never ends.
-/

namespace Chitragupt

structure RawPage where
  text : Text
  pageNumber : Int
  sectionTitle : Option Text := none

structure TextChunk where
  text : Text
  chunkIndex : Nat
  tokenCount : Nat
  sectionTitle : Option Text
  pageNumber : Option Int

structure Chunker where
  size : Int
  overlap : Int
  minTokens : Int

namespace Chunker

/-- The chunks so far and the index of the next one. -/
structure Progress where
  chunks : List TextChunk := []
  idx : Nat := 0

variable (chunker : Chunker)

/-- Add a window, unless it is too small and not the first chunk. -/
def addWindow (page : RawPage) (window : List Text) (progress : Progress) : Progress :=
  if chunker.minTokens ≤ window.length ∨ progress.chunks = [] then
    { chunks := progress.chunks ++
        [{ text := List.intercalate (Text.ofString " ") window
           chunkIndex := progress.idx
           tokenCount := window.length
           sectionTitle := page.sectionTitle
           pageNumber := some page.pageNumber }]
      idx := progress.idx + 1 }
  else
    progress

/-- The loop over the windows of a page, for a number of rounds. -/
def windows (page : RawPage) (tokens : List Text) :
    Nat → Int → Progress → Option Progress
  | 0, _, _ => none
  | rounds + 1, start, progress =>
      if start < tokens.length then
        let stop := min (start + chunker.size) tokens.length
        let progress := addWindow chunker page (Python.slice tokens start stop) progress
        if stop = tokens.length then some progress
        else windows page tokens rounds (stop - chunker.overlap) progress
      else
        some progress

/-- The windows of a page.  A loop that ends takes at most one round for each word and one
more; without a result it never ends. -/
def chunkPage (progress : Progress) (page : RawPage) : Option Progress :=
  let tokens := Python.split page.text
  if tokens = [] then some progress
  else windows chunker page tokens (tokens.length + 1) 0 progress

/-- The chunks of all pages, unless the loop of one of them never ends. -/
def chunk (pages : List RawPage) : Option (List TextChunk) :=
  (pages.foldlM (chunkPage chunker) {}).map Progress.chunks

/-! ## The rounds of a page -/

section Rounds

variable {page : RawPage} {tokens : List Text}

/-- Extra rounds change nothing once the loop has ended. -/
theorem windows_add {rounds : Nat} {start : Int} {progress after : Progress}
    (ended : windows chunker page tokens rounds start progress = some after) (extra : Nat) :
    windows chunker page tokens (rounds + extra) start progress = some after := by
  induction rounds generalizing start progress with
  | zero => cases ended
  | succ rounds ih =>
      rw [Nat.succ_add]
      rw [windows] at ended ⊢
      split at ended
      next inside =>
        rw [if_pos inside]
        dsimp only at ended ⊢
        split at ended
        next last => rw [if_pos last, ended]
        next further =>
          rw [if_neg further]
          exact ih ended
      next outside => rw [if_neg outside, ended]

/-- Where the windows reach beyond the overlap, every round moves on. -/
theorem exists_windows (advances : chunker.overlap < chunker.size) (rounds : Nat)
    (start : Int) (progress : Progress) (enough : tokens.length < start + rounds)
    (granted : 0 < rounds) :
    ∃ after, windows chunker page tokens rounds start progress = some after := by
  induction rounds generalizing start progress with
  | zero => cases granted
  | succ rounds ih =>
      rw [windows]
      split
      next inside =>
        dsimp only
        split
        next last => exact ⟨_, rfl⟩
        next further =>
          have stop : min (start + chunker.size) tokens.length = start + chunker.size :=
            min_eq_left (le_of_not_ge fun beyond => further (min_eq_right beyond))
          rw [stop]
          apply ih
          · omega
          · omega
      next outside => exact ⟨_, rfl⟩

/-- Where they do not, a page longer than one window is never done. -/
theorem windows_eq_none (stays : chunker.size ≤ chunker.overlap) (rounds : Nat)
    (start : Int) (progress : Progress) (long : start + chunker.size < tokens.length)
    (inside : start < tokens.length) :
    windows chunker page tokens rounds start progress = none := by
  induction rounds generalizing start progress with
  | zero => rfl
  | succ rounds ih =>
      rw [windows, if_pos inside]
      have further : min (start + chunker.size) tokens.length ≠ tokens.length := by omega
      dsimp only
      rw [if_neg further]
      apply ih
      · omega
      · omega

/-- The rounds that the chunker grants to a page are enough for every loop that ends. -/
theorem windows_eq_some_iff {progress after : Progress} :
    windows chunker page tokens (tokens.length + 1) 0 progress = some after ↔
      ∃ rounds, windows chunker page tokens rounds 0 progress = some after := by
  constructor
  · intro ended
    exact ⟨_, ended⟩
  · rintro ⟨rounds, ended⟩
    have enough : ∃ other,
        windows chunker page tokens (tokens.length + 1) 0 progress = some other := by
      by_cases advances : chunker.overlap < chunker.size
      · apply exists_windows chunker advances
        · omega
        · omega
      · by_cases long : chunker.size < tokens.length ∧ 0 < tokens.length
        · have endless : windows chunker page tokens rounds 0 progress = none :=
            windows_eq_none chunker (not_lt.mp advances) rounds 0 progress (by omega) (by omega)
          rw [endless] at ended
          cases ended
        · rw [windows]
          split
          next inside =>
            dsimp only
            rw [if_pos (by omega)]
            exact ⟨_, rfl⟩
          next outside => exact ⟨_, rfl⟩
    rcases enough with ⟨other, same⟩
    have first := windows_add chunker ended (tokens.length + 1)
    have second := windows_add chunker same rounds
    rw [Nat.add_comm, second] at first
    rw [same, first]

end Rounds

/-! ## What the windows keep -/

/-- Each window of a page that is added keeps a property of the chunks so far. -/
def Keeps (page : RawPage) (property : Progress → Prop) : Prop :=
  ∀ start stop progress, property progress →
    property (addWindow chunker page (Python.slice (Python.split page.text) start stop) progress)

section Keeps

variable {property : Progress → Prop} {page : RawPage} {progress after : Progress}

theorem keeps_windows (keeps : Keeps chunker page property) {rounds : Nat} {start : Int}
    (holds : property progress)
    (ended : windows chunker page (Python.split page.text) rounds start progress = some after) :
    property after := by
  induction rounds generalizing start progress with
  | zero => cases ended
  | succ rounds ih =>
      rw [windows] at ended
      split at ended
      · dsimp only at ended
        split at ended
        · rcases Option.some.inj ended with rfl
          exact keeps _ _ _ holds
        · exact ih (keeps _ _ _ holds) ended
      · rcases Option.some.inj ended with rfl
        exact holds

theorem keeps_chunkPage (keeps : Keeps chunker page property) (holds : property progress)
    (ended : chunkPage chunker progress page = some after) : property after := by
  rw [chunkPage] at ended
  split at ended
  · rcases Option.some.inj ended with rfl
    exact holds
  · exact keeps_windows chunker keeps holds ended

/-- What all windows keep holds of the chunks of a document. -/
theorem keeps_chunk {pages : List RawPage} {chunks : List TextChunk}
    (keeps : ∀ page ∈ pages, Keeps chunker page property) (initial : property {})
    (ended : chunk chunker pages = some chunks) :
    ∃ progress : Progress, progress.chunks = chunks ∧ property progress := by
  rcases Option.map_eq_some_iff.mp ended with ⟨after, done, same⟩
  refine ⟨after, same, ?_⟩
  generalize ({} : Progress) = progress at initial done
  clear ended same
  induction pages generalizing progress with
  | nil =>
      rcases Option.some.inj done with rfl
      exact initial
  | cons page pages ih =>
      rw [List.forall_mem_cons] at keeps
      rw [List.foldlM_cons, Option.bind_eq_bind, Option.bind_eq_some_iff] at done
      rcases done with ⟨next, first, rest⟩
      exact ih keeps.2 next (keeps_chunkPage chunker keeps.1 initial first) rest

end Keeps

/-! ## The indices of the chunks -/

/-- The chunks are numbered from zero. -/
def Numbered (progress : Progress) : Prop :=
  progress.chunks.map TextChunk.chunkIndex = List.range progress.idx

theorem numbered_addWindow {page : RawPage} {window : List Text} {progress : Progress}
    (numbered : Numbered progress) : Numbered (addWindow chunker page window progress) := by
  rw [addWindow]
  split
  · rw [Numbered, List.map_append, List.range_succ, numbered]
    rfl
  · exact numbered

/-- The chunks of a document are numbered in order. -/
theorem map_chunkIndex_chunk {pages : List RawPage} {chunks : List TextChunk}
    (ended : chunk chunker pages = some chunks) :
    chunks.map TextChunk.chunkIndex = List.range chunks.length := by
  have keeps : ∀ page ∈ pages, Keeps chunker page Numbered :=
    fun page _ start stop progress numbered => numbered_addWindow chunker numbered
  rcases keeps_chunk chunker keeps rfl ended with ⟨progress, rfl, numbered⟩
  have length := congrArg List.length numbered
  rw [List.length_map, List.length_range] at length
  rw [numbered, length]

/-! ## The words of the chunks -/

/-- Each chunk tells the number of its words. -/
def Counted (progress : Progress) : Prop :=
  ∀ chunk ∈ progress.chunks, chunk.tokenCount = (Python.split chunk.text).length

theorem counted_addWindow {page : RawPage} {window : List Text} {progress : Progress}
    (words : ∀ word ∈ window, Python.IsWord word) (counted : Counted progress) :
    Counted (addWindow chunker page window progress) := by
  rw [addWindow]
  split
  · intro chunk member
    rcases List.mem_append.mp member with old | new
    · exact counted chunk old
    · rw [List.mem_singleton.mp new, Python.split_intercalate words]
  · exact counted

/-- The chunks of a document tell the numbers of their words. -/
theorem tokenCount_of_mem_chunk {pages : List RawPage} {chunks : List TextChunk}
    (ended : chunk chunker pages = some chunks) {chunk : TextChunk} (member : chunk ∈ chunks) :
    chunk.tokenCount = (Python.split chunk.text).length := by
  have keeps : ∀ page ∈ pages, Keeps chunker page Counted := by
    intro page _ start stop progress counted
    apply counted_addWindow chunker _ counted
    intro word present
    exact Python.isWord_of_mem_split (List.mem_of_mem_take (List.mem_of_mem_drop present))
  rcases keeps_chunk chunker keeps nofun ended with ⟨progress, rfl, counted⟩
  exact counted chunk member

end Chunker

end Chitragupt
