import Chitragupt.Lib.SlidingWindow
import Mathlib.Data.List.TakeDrop

/-!
# Positions in joined words

Words are joined by one separator between neighbours.  Each word, and each run of words, has
its place in the joined text; every position is in the place of one word or has a separator.
-/

namespace JoinedWords

variable {α : Type*} (separator : α)

def text (words : List (List α)) : List α := List.intercalate [separator] words

/-- Words that others follow. -/
def leading (words : List (List α)) : List α := words.flatMap (· ++ [separator])

/-- Words that follow others. -/
def trailing (words : List (List α)) : List α := words.flatMap (separator :: ·)

/-- The length of words with a separator behind each. -/
def extent : List (List α) → Nat
  | [] => 0
  | word :: rest => word.length + 1 + extent rest

/-- Where a word starts. -/
def start (words : List (List α)) (index : Nat) : Nat := extent (words.take index)

/-- The place of a run of words. -/
def place (words : List (List α)) (span : Span) : Span :=
  ⟨start words span.start, start words span.stop - 1⟩

/-- The place of one word. -/
def wordPlace (words : List (List α)) (index : Nat) : Span := place words ⟨index, index + 1⟩

section Texts

variable {separator} {words : List (List α)}

theorem text_cons (word : List α) (rest : List (List α)) :
    text separator (word :: rest) = word ++ trailing separator rest := by
  induction rest generalizing word with
  | nil => rw [text, List.intercalate_singleton, trailing, List.flatMap_nil, List.append_nil]
  | cons next rest ih =>
      rw [text, List.intercalate_cons_cons, List.append_assoc]
      exact congrArg (word ++ separator :: ·) (ih next)

theorem text_append_trailing {words : List (List α)} (nonempty : words ≠ [])
    (more : List (List α)) :
    text separator (words ++ more) = text separator words ++ trailing separator more := by
  cases words with
  | nil => exact absurd rfl nonempty
  | cons word rest =>
      rw [List.cons_append, text_cons, text_cons, trailing, List.flatMap_append,
        List.append_assoc]
      rfl

theorem leading_append_text (front : List (List α)) {words : List (List α)}
    (nonempty : words ≠ []) :
    text separator (front ++ words) = leading separator front ++ text separator words := by
  induction front with
  | nil => rfl
  | cons word rest ih =>
      have some' : rest ++ words ≠ [] := List.append_ne_nil_of_right_ne_nil rest nonempty
      rw [leading, List.flatMap_cons, List.append_assoc]
      change _ = word ++ [separator] ++ (leading separator rest ++ text separator words)
      rw [← ih, List.cons_append]
      cases joined : rest ++ words with
      | nil => exact absurd joined some'
      | cons next more => rw [text, text, List.intercalate_cons_cons]

theorem extent_append (front back : List (List α)) :
    extent (front ++ back) = extent front + extent back := by
  induction front with
  | nil => exact (Nat.zero_add _).symm
  | cons word rest ih => rw [List.cons_append, extent, extent, ih, Nat.add_assoc _ _ (extent back)]

theorem length_leading (words : List (List α)) :
    (leading separator words).length = extent words := by
  induction words with
  | nil => rfl
  | cons word rest ih =>
      rw [leading, List.flatMap_cons, List.length_append, List.length_append,
        List.length_singleton, extent]
      exact congrArg (word.length + 1 + ·) ih

theorem length_text {words : List (List α)} (nonempty : words ≠ []) :
    (text separator words).length + 1 = extent words := by
  have closed := @leading_append_text α separator words [[]] (List.cons_ne_nil _ _)
  have opened := @text_append_trailing α separator words nonempty [[]]
  have length := congrArg List.length (opened.symm.trans closed)
  rw [List.length_append, List.length_append, length_leading] at length
  exact length

/-- A run of words between those in front of it and those behind it. -/
theorem text_eq {span : Span} (ordered : span.start < span.stop)
    (inside : span.stop ≤ words.length) :
    text separator words = leading separator (words.take span.start) ++
      (text separator (span.slice words) ++ trailing separator (words.drop span.stop)) := by
  have some' : span.slice words ≠ [] := by
    apply List.ne_nil_of_length_pos
    rw [Span.length_slice inside, Span.length]
    omega
  rw [← text_append_trailing some', ← leading_append_text _
    (List.append_ne_nil_of_left_ne_nil some' _), Span.slice_append_drop ordered.le,
    List.take_append_drop]

theorem length_leading_take (index : Nat) :
    (leading separator (words.take index)).length = start words index := length_leading _

theorem start_append (words : List (List α)) (first count : Nat) :
    start words (first + count) =
      start words first + extent ((words.drop first).take count) := by
  rw [start, List.take_add, extent_append, start]

theorem start_mono (words : List (List α)) {first last : Nat} (ordered : first ≤ last) :
    start words first ≤ start words last := by
  rcases Nat.exists_eq_add_of_le ordered with ⟨count, rfl⟩
  rw [start_append]
  exact Nat.le_add_right _ _

theorem start_succ {index : Nat} (inside : index < words.length) :
    start words (index + 1) = start words index + words[index].length + 1 := by
  rw [start_append, List.take_one_drop_eq_of_lt_length inside, Nat.add_assoc]
  rfl

theorem length_text_slice {span : Span} (ordered : span.start < span.stop)
    (inside : span.stop ≤ words.length) :
    start words span.start + (text separator (span.slice words)).length + 1 =
      start words span.stop := by
  have some' : span.slice words ≠ [] := by
    apply List.ne_nil_of_length_pos
    rw [Span.length_slice inside, Span.length]
    omega
  rw [Nat.add_assoc, length_text some', Span.slice, List.drop_take, ← start_append,
    Nat.add_sub_cancel' ordered.le]

/-- The text around a place. -/
theorem text_eq_place {span : Span} (ordered : span.start < span.stop)
    (inside : span.stop ≤ words.length) :
    ∃ front back, text separator words = front ++ (text separator (span.slice words) ++ back) ∧
      front.length = (place words span).start ∧
      front.length + (text separator (span.slice words)).length = (place words span).stop ∧
      (∀ last ∈ front.getLast?, last = separator) ∧ (∀ first ∈ back.head?, first = separator) := by
  have length := @length_text_slice α separator words span ordered inside
  refine ⟨_, _, text_eq ordered inside, length_leading_take _, ?_, ?_, ?_⟩
  · rw [length_leading_take, place]
    dsimp only
    omega
  · intro last member
    rcases List.eq_nil_or_concat (words.take span.start) with empty | ⟨rest, word, same⟩
    · rw [empty] at member
      cases member
    · rw [same, leading, List.concat_eq_append, List.flatMap_append, List.flatMap_singleton,
        ← List.append_assoc, List.getLast?_concat] at member
      exact (Option.some.inj member).symm
  · intro first member
    cases rest : words.drop span.stop with
    | nil =>
        rw [rest] at member
        cases member
    | cons word rest' =>
        rw [rest] at member
        exact (Option.some.inj member).symm

/-! ## Single words -/

theorem wordPlace_stop {index : Nat} (inside : index < words.length) :
    (wordPlace words index).stop = start words index + words[index].length := by
  rw [wordPlace, place, start_succ inside, Nat.add_sub_cancel]

/-- A position of a word has a character of the word. -/
theorem exists_mem_of_holds {index position : Nat} (inside : index < words.length)
    (holds : (wordPlace words index).Holds position) :
    ∃ char ∈ words[index], (text separator words)[position]? = some char := by
  have slice : (⟨index, index + 1⟩ : Span).slice words = [words[index]] := by
    rw [Span.slice, List.drop_take, Nat.add_sub_cancel_left,
      List.take_one_drop_eq_of_lt_length inside]
    rfl
  rcases @text_eq_place α separator words ⟨index, index + 1⟩ (Nat.lt_succ_self _) inside with
    ⟨front, back, same, start, stop, _⟩
  have single : text separator [words[index]] = words[index] := List.intercalate_singleton
  rw [slice, single] at same stop
  have lower : front.length ≤ position := start ▸ holds.1
  have upper : position < front.length + words[index].length := stop ▸ holds.2
  rw [same, List.getElem?_append_right lower, List.getElem?_append_left (by omega)]
  exact ⟨_, List.getElem_mem (by omega), List.getElem?_eq_getElem (by omega)⟩

/-- A position is in a word or has a separator. -/
theorem exists_wordPlace {position : Nat} (inside : position < (text separator words).length) :
    (∃ index < words.length, (wordPlace words index).Holds position) ∨
      (text separator words)[position]? = some separator := by
  have nonempty : words ≠ [] := by
    rintro rfl
    cases inside
  have whole : position < start words words.length := by
    rw [start, List.take_length, ← @length_text α separator words nonempty]
    omega
  have search : ∀ count ≤ words.length, position < start words count →
      ∃ index < words.length, start words index ≤ position ∧ position < start words (index + 1) := by
    intro count
    induction count with
    | zero => exact fun _ none' => absurd none' (Nat.not_lt_zero _)
    | succ count ih =>
        intro few before
        by_cases early : position < start words count
        · exact ih (by omega) early
        · exact ⟨count, few, not_lt.mp early, before⟩
  rcases search _ le_rfl whole with ⟨index, few, lower, upper⟩
  by_cases within : position < (wordPlace words index).stop
  · exact .inl ⟨index, few, lower, within⟩
  · right
    rcases @text_eq_place α separator words ⟨index, index + 1⟩ (Nat.lt_succ_self _) few with
      ⟨front, back, same, start', stop, _, after⟩
    rw [start_succ few] at upper
    have bound := wordPlace_stop few
    have stop' : front.length + (text separator (Span.slice ⟨index, index + 1⟩ words)).length =
        position := stop.trans (by rw [wordPlace] at within bound; omega)
    rw [same, ← List.append_assoc] at inside ⊢
    rw [← List.length_append] at stop'
    rw [← stop', List.getElem?_append_right le_rfl, Nat.sub_self, ← List.head?_eq_getElem?]
    cases back with
    | nil =>
        rw [List.append_nil] at inside
        omega
    | cons first rest => exact congrArg some (after first rfl)

/-- In front of a place there is a separator. -/
theorem separator_before {span : Span} {position : Nat} (ordered : span.start < span.stop)
    (inside : span.stop ≤ words.length) (last : position + 1 = (place words span).start) :
    (text separator words)[position]? = some separator := by
  rcases @text_eq_place α separator words span ordered inside with
    ⟨front, back, same, start', _, before, _⟩
  rw [same]
  rcases List.eq_nil_or_concat front with rfl | ⟨rest, char, rfl⟩
  · rw [List.length_nil] at start'
    omega
  · rw [List.concat_eq_append] at before start' ⊢
    rw [List.length_append, List.length_singleton] at start'
    have here : position = rest.length := by omega
    rw [here, List.append_assoc, List.getElem?_append_right le_rfl, Nat.sub_self]
    exact congrArg some (before char List.getLast?_concat)

/-- Behind a place there is a separator. -/
theorem separator_after {span : Span} {char : α} (ordered : span.start < span.stop)
    (inside : span.stop ≤ words.length)
    (found : (text separator words)[(place words span).stop]? = some char) : char = separator := by
  rcases @text_eq_place α separator words span ordered inside with
    ⟨front, back, same, _, stop, _, after⟩
  rw [same, ← List.append_assoc, ← stop, ← List.length_append,
    List.getElem?_append_right le_rfl, Nat.sub_self, ← List.head?_eq_getElem?] at found
  exact after char found

/-! ## Words of a run -/

/-- The place of a word lies in the place of a run that holds it. -/
theorem wordPlace_within {span : Span} {index : Nat} (holds : span.Holds index) :
    (place words span).Covers (wordPlace words index) :=
  ⟨start_mono words holds.1, Nat.sub_le_sub_right (start_mono words holds.2) 1⟩

/-- A run whose place meets the place of a word holds the word. -/
theorem holds_of_meets {span : Span} {index position : Nat}
    (run : (place words span).Holds position) (word : (wordPlace words index).Holds position) :
    span.Holds index := by
  have lower := run.1
  have upper := run.2
  have lower' := word.1
  have upper' := word.2
  rw [wordPlace] at lower' upper'
  rw [place] at lower upper lower' upper'
  dsimp only at lower upper lower' upper'
  constructor
  · by_contra early
    have before := @start_mono α words (index + 1) span.start (by omega)
    omega
  · by_contra late
    have after := @start_mono α words span.stop index (by omega)
    omega

/-- Places of different words do not meet. -/
theorem eq_of_holds {index other position : Nat} (here : (wordPlace words index).Holds position)
    (there : (wordPlace words other).Holds position) : index = other := by
  have holds : (⟨index, index + 1⟩ : Span).Holds other := holds_of_meets here there
  exact le_antisymm holds.1 (Nat.lt_succ_iff.mp holds.2)

end Texts

end JoinedWords
