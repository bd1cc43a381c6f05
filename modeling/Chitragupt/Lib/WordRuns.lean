import Chitragupt.Lib.Regex
import Chitragupt.Lib.SlidingWindow

/-!
# Runs of word characters

The maximal runs of word characters in a text never overlap.  A text that consists of such
runs with single separators between them has a shape, the list of the lengths.  Two shaped
parts of one text that meet have comparable shapes from the first common run on.
-/

namespace WordRuns

/-! ## Runs -/

/-- A maximal run of word positions. -/
structure Run (word : Nat → Bool) (span : Span) : Prop where
  nonempty : span.start < span.stop
  inside : ∀ position, span.Holds position → word position = true
  before : ∀ position, position + 1 = span.start → word position = false
  after : word span.stop = false

section Positions

variable {word : Nat → Bool} {span other : Span}

theorem Run.start_le (run : Run word span) (there : Run word other)
    (meets : span.Meets other) : span.start ≤ other.start := by
  rcases meets with ⟨position, here, held⟩
  by_contra early
  have outside := run.before (span.start - 1) (by omega)
  rw [there.inside (span.start - 1) ⟨by omega, by have := here.1; have := held.2; omega⟩] at outside
  cases outside

theorem Run.stop_le (run : Run word span) (there : Run word other)
    (meets : span.Meets other) : other.stop ≤ span.stop := by
  rcases meets with ⟨position, here, held⟩
  by_contra late
  have outside := run.after
  rw [there.inside span.stop ⟨by have := here.2; have := held.1; omega, by omega⟩] at outside
  cases outside

/-- Runs that meet are the same. -/
theorem Run.eq_of_meets (run : Run word span) (there : Run word other)
    (meets : span.Meets other) : span = other := by
  have start := le_antisymm (run.start_le there meets) (there.start_le run meets.symm)
  have stop := le_antisymm (there.stop_le run meets.symm) (run.stop_le there meets)
  cases span
  cases other
  exact congrArg₂ Span.mk start stop

/-! ## Shapes -/

/-- Runs of some lengths, with one position between neighbours. -/
def Shaped (word : Nat → Bool) : Nat → List Nat → Prop
  | _, [] => True
  | start, length :: rest =>
      Run word ⟨start, start + length⟩ ∧ Shaped word (start + length + 1) rest

/-- The number of positions of a shape. -/
def extent : List Nat → Nat
  | [] => 0
  | [length] => length
  | length :: rest => length + 1 + extent rest

/-- Shapes with the same start are comparable. -/
theorem comparable_of_start {start : Nat} {shape other : List Nat} (here : Shaped word start shape)
    (there : Shaped word start other) : shape <+: other ∨ other <+: shape := by
  induction shape generalizing start other with
  | nil => exact .inl (List.nil_prefix)
  | cons length rest ih =>
      cases other with
      | nil => exact .inr (List.nil_prefix)
      | cons size more =>
          have meets : Span.Meets ⟨start, start + length⟩ ⟨start, start + size⟩ :=
            ⟨start, ⟨le_rfl, here.1.nonempty⟩, ⟨le_rfl, there.1.nonempty⟩⟩
          have same := congrArg Span.stop (here.1.eq_of_meets there.1 meets)
          rcases Nat.add_left_cancel same with rfl
          rw [List.cons_prefix_cons, List.cons_prefix_cons]
          exact (ih here.2 there.2).imp (fun front => ⟨rfl, front⟩) fun front => ⟨rfl, front⟩

/-- A word position of a shape is in one of its runs. -/
theorem exists_run {start position : Nat} {shape : List Nat} (shaped : Shaped word start shape)
    (after : start ≤ position) (before : position < start + extent shape)
    (inside : word position = true) :
    ∃ count < shape.length, ∃ first, Shaped word first (shape.drop count) ∧
      first ≤ position ∧ (∀ length ∈ (shape.drop count).head?, position < first + length) ∧
      (count = 0 → first = start) := by
  induction shape generalizing start with
  | nil =>
      rw [extent] at before
      omega
  | cons length rest ih =>
      by_cases early : position < start + length
      · refine ⟨0, Nat.succ_pos _, start, shaped, after, ?_, fun _ => rfl⟩
        intro first same
        rcases Option.some.inj same with rfl
        exact early
      · have apart : position ≠ start + length := by
          rintro rfl
          rw [shaped.1.after] at inside
          cases inside
        have later : position < start + length + 1 + extent rest := by
          cases rest with
          | nil =>
              rw [extent] at before
              omega
          | cons next more =>
              rw [extent] at before
              · omega
              · exact List.cons_ne_nil _ _
        rcases ih shaped.2 (by omega) later with ⟨count, few, first, shaped', bounds⟩
        refine ⟨count + 1, Nat.succ_lt_succ few, first, shaped', bounds.1, bounds.2.1, ?_⟩
        intro zero
        cases zero

/-- Where a shape starts in another one, they are comparable from there on. -/
theorem exists_comparable {start first : Nat} {shape other : List Nat}
    (here : Shaped word start shape) (there : Shaped word first other) (some' : other ≠ [])
    (after : start ≤ first) (before : first < start + extent shape) :
    ∃ count < shape.length, (shape.drop count <+: other ∨ other <+: shape.drop count) ∧
      (count = 0 → start = first) := by
  cases other with
  | nil => exact absurd rfl some'
  | cons length rest =>
      have inside := there.1.inside first ⟨le_rfl, there.1.nonempty⟩
      rcases exists_run here after before inside with ⟨count, few, place, shaped, early, late, zero⟩
      refine ⟨count, few, ?_⟩
      cases drop : shape.drop count with
      | nil =>
          have none' := List.drop_eq_nil_iff.mp drop
          omega
      | cons size more =>
          rw [drop] at shaped late
          have meets : Span.Meets ⟨place, place + size⟩ ⟨first, first + length⟩ :=
            ⟨first, ⟨early, late size rfl⟩, ⟨le_rfl, there.1.nonempty⟩⟩
          have same := congrArg Span.start (shaped.1.eq_of_meets there.1 meets)
          dsimp only at same
          subst same
          exact ⟨comparable_of_start shaped there, fun none' => (zero none').symm⟩

end Positions

/-! ## Shaped texts -/

section Texts

open Regex (headWord lastWord headWord_append lastWord_append)

variable {α : Type*} (isWord : α → Bool)

/-- Whether a position of a text has a word character. -/
def wordAt (text : List α) (position : Nat) : Bool := text[position]?.any isWord

/-- Word characters of some number. -/
structure IsRun (length : Nat) (text : List α) : Prop where
  size : text.length = length
  positive : 0 < length
  word : ∀ char ∈ text, isWord char = true

/-- Runs of some lengths, with one other character between neighbours. -/
def HasShape : List Nat → List α → Prop
  | [], _ => False
  | [length], text => IsRun isWord length text
  | length :: next :: rest, text =>
      ∃ run separator more, text = run ++ separator :: more ∧ IsRun isWord length run ∧
        isWord separator = false ∧ HasShape (next :: rest) more

variable {isWord}

theorem wordAt_append (before after : List α) (position : Nat) :
    wordAt isWord (before ++ after) (before.length + position) = wordAt isWord after position := by
  rw [wordAt, wordAt, List.getElem?_append_right (Nat.le_add_right _ _), Nat.add_sub_cancel_left]

theorem wordAt_length (before after : List α) :
    wordAt isWord (before ++ after) before.length = headWord isWord after false := by
  have first := @wordAt_append _ isWord before after 0
  rw [Nat.add_zero] at first
  rw [first]
  cases after with
  | nil => rfl
  | cons char rest => rfl

theorem wordAt_last {before after : List α} {position : Nat} (last : position + 1 = before.length) :
    wordAt isWord (before ++ after) position = lastWord isWord false before := by
  rcases List.eq_nil_or_concat before with rfl | ⟨front, char, rfl⟩
  · cases last
  · rw [List.length_concat, Nat.succ_inj] at last
    subst last
    rw [List.concat_eq_append, List.append_assoc, wordAt_length, lastWord_append]
    rfl

theorem IsRun.append {length size : Nat} {front back : List α} (here : IsRun isWord length front)
    (there : IsRun isWord size back) : IsRun isWord (length + size) (front ++ back) where
  size := by rw [List.length_append, here.size, there.size]
  positive := Nat.add_pos_left here.positive _
  word := List.forall_mem_append.mpr ⟨here.word, there.word⟩

namespace IsRun

variable {length : Nat} {text : List α} (isRun : IsRun isWord length text)

include isRun

theorem headWord_eq_true (after : Bool) : headWord isWord text after = true := by
  cases text with
  | nil =>
      have size := isRun.size
      have positive := isRun.positive
      rw [List.length_nil] at size
      omega
  | cons char rest => exact isRun.word char List.mem_cons_self

theorem lastWord_eq_true (before : Bool) : lastWord isWord before text = true := by
  rcases List.eq_nil_or_concat text with rfl | ⟨front, char, rfl⟩
  · have size := isRun.size
    have positive := isRun.positive
    rw [List.length_nil] at size
    omega
  · rw [List.concat_eq_append, lastWord_append]
    exact isRun.word char (by simp)

/-- Word characters between others are a run. -/
theorem run {before after : List α} (left : lastWord isWord false before = false)
    (right : headWord isWord after false = false) :
    Run (wordAt isWord (before ++ (text ++ after))) ⟨before.length, before.length + length⟩ where
  nonempty := Nat.lt_add_of_pos_right isRun.positive
  inside position held := by
    rcases Nat.exists_eq_add_of_le held.1 with ⟨offset, rfl⟩
    have few : offset < text.length := isRun.size ▸ Nat.lt_of_add_lt_add_left held.2
    rw [wordAt_append, wordAt, List.getElem?_append_left few, List.getElem?_eq_getElem few]
    exact isRun.word _ (List.getElem_mem few)
  before position last := by rw [wordAt_last last, left]
  after := by
    dsimp only
    rw [wordAt_append, ← isRun.size, wordAt_length, right]

end IsRun

theorem HasShape.headWord_eq_true {shape : List Nat} {text : List α}
    (hasShape : HasShape isWord shape text) (after : Bool) :
    headWord isWord text after = true := by
  cases shape with
  | nil => cases hasShape
  | cons length rest =>
      cases rest with
      | nil => exact IsRun.headWord_eq_true hasShape after
      | cons next rest =>
          rcases hasShape with ⟨run, separator, more, rfl, isRun, _⟩
          rw [headWord_append]
          exact isRun.headWord_eq_true _

theorem HasShape.lastWord_eq_true {shape : List Nat} {text : List α}
    (hasShape : HasShape isWord shape text) (before : Bool) :
    lastWord isWord before text = true := by
  induction shape generalizing text before with
  | nil => cases hasShape
  | cons length rest ih =>
      cases rest with
      | nil => exact IsRun.lastWord_eq_true hasShape before
      | cons next rest =>
          rcases hasShape with ⟨run, separator, more, rfl, _, _, later⟩
          rw [lastWord_append]
          exact ih later _

theorem HasShape.length_eq {shape : List Nat} {text : List α}
    (hasShape : HasShape isWord shape text) : text.length = extent shape := by
  induction shape generalizing text with
  | nil => cases hasShape
  | cons length rest ih =>
      cases rest with
      | nil => exact hasShape.size
      | cons next rest =>
          rcases hasShape with ⟨run, separator, more, rfl, isRun, _, later⟩
          have step : extent (length :: next :: rest) = length + 1 + extent (next :: rest) := rfl
          rw [List.length_append, List.length_cons, isRun.size, ih later, step]
          omega

/-- A text with a shape, between other characters, has the positions of the shape. -/
theorem HasShape.shaped {shape : List Nat} {before text after : List α}
    (hasShape : HasShape isWord shape text) (left : lastWord isWord false before = false)
    (right : headWord isWord after false = false) :
    Shaped (wordAt isWord (before ++ (text ++ after))) before.length shape := by
  induction shape generalizing before text with
  | nil => cases hasShape
  | cons length rest ih =>
      cases rest with
      | nil => exact ⟨IsRun.run hasShape left right, trivial⟩
      | cons next rest =>
          rcases hasShape with ⟨run, separator, more, rfl, isRun, apart, later⟩
          rw [List.append_assoc]
          refine ⟨isRun.run left apart, ?_⟩
          have same : before ++ (run ++ (separator :: more ++ after)) =
              (before ++ (run ++ [separator])) ++ (more ++ after) := by
            simp only [List.append_assoc, List.cons_append, List.nil_append]
          have size : (before ++ (run ++ [separator])).length = before.length + length + 1 := by
            rw [List.length_append, List.length_append, isRun.size, List.length_singleton,
              Nat.add_assoc]
          rw [same, ← size]
          apply ih later
          rw [lastWord_append, lastWord_append]
          exact apart

/-- Shapes that meet are comparable from the first common run on. -/
theorem comparable_of_meets {word : Nat → Bool} {start first : Nat} {shape other : List Nat}
    (here : Shaped word start shape) (there : Shaped word first other)
    (meets : Span.Meets ⟨start, start + extent shape⟩ ⟨first, first + extent other⟩) :
    (∃ count < shape.length, (shape.drop count <+: other ∨ other <+: shape.drop count) ∧
      (count = 0 → start = first)) ∨
    ∃ count < other.length, (other.drop count <+: shape ∨ shape <+: other.drop count) ∧
      (count = 0 → first = start) := by
  rcases meets with ⟨position, inside, within⟩
  have lower := inside.1
  have upper := inside.2
  have lower' := within.1
  have upper' := within.2
  dsimp only at lower upper lower' upper'
  rcases Nat.le_total start first with early | late
  · left
    apply exists_comparable here there _ early (by omega)
    rintro rfl
    rw [extent] at upper'
    omega
  · right
    apply exists_comparable there here _ late (by omega)
    rintro rfl
    rw [extent] at upper
    omega

end Texts

end WordRuns
