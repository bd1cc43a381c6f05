import Mathlib.Data.List.Chain

/-!
# Sliding windows over a list

A list is cut into windows of a fixed size, each of which repeats the last elements of the
one before.  The windows are given by their positions; the elements are sliced out
afterwards.  Every position lies in a window, and the list is put together again by dropping
what a window repeats.
-/

/-- The positions from `start` up to `stop`, which is excluded. -/
structure Span where
  start : Nat
  stop : Nat
  deriving DecidableEq, Repr

namespace Span

variable {α : Type*}

def length (span : Span) : Nat := span.stop - span.start

def Holds (span : Span) (position : Nat) : Prop :=
  span.start ≤ position ∧ position < span.stop

/-- Two spans share a position. -/
def Meets (span other : Span) : Prop := ∃ position, span.Holds position ∧ other.Holds position

/-- All of a span lies in another one. -/
def Covers (span other : Span) : Prop := span.start ≤ other.start ∧ other.stop ≤ span.stop

/-- The positions that two spans share. -/
def inter (span other : Span) : Span :=
  ⟨max span.start other.start, min span.stop other.stop⟩

def slice (span : Span) (items : List α) : List α := (items.take span.stop).drop span.start

theorem length_slice {span : Span} {items : List α} (inside : span.stop ≤ items.length) :
    (span.slice items).length = span.length := by
  rw [slice, List.length_drop, List.length_take, min_eq_left inside, length]

theorem slice_whole {items : List α} {length : Nat} (same : items.length = length) :
    slice ⟨0, length⟩ items = items := by
  rw [slice, ← same, List.take_length, List.drop_zero]

theorem slice_sublist (span : Span) (items : List α) : (span.slice items).Sublist items :=
  (List.drop_sublist _ _).trans (List.take_sublist _ _)

/-- A slice and what follows it. -/
theorem slice_append_drop {span : Span} (ordered : span.start ≤ span.stop) (items : List α) :
    span.slice items ++ items.drop span.stop = items.drop span.start := by
  rw [slice]
  by_cases inside : span.start ≤ items.length
  · have same : (items.take span.stop ++ items.drop span.stop).drop span.start =
        (items.take span.stop).drop span.start ++ items.drop span.stop := by
      apply List.drop_append_of_le_length
      rw [List.length_take]
      exact le_min ordered inside
    rw [← same, List.take_append_drop]
  · have beyond : items.length ≤ span.start := le_of_not_ge inside
    rw [List.drop_eq_nil_of_le (beyond.trans ordered), List.append_nil,
      List.drop_eq_nil_of_le beyond, List.drop_eq_nil_of_le]
    rw [List.length_take]
    exact (min_le_right _ _).trans beyond

/-- The slice of a part between two others. -/
theorem slice_middle (front middle back : List α) :
    slice ⟨front.length, front.length + middle.length⟩ (front ++ (middle ++ back)) = middle := by
  rw [slice, ← List.append_assoc, ← List.length_append, List.take_left, List.drop_left]

theorem Covers.holds {span other : Span} (covers : span.Covers other) {position : Nat}
    (held : other.Holds position) : span.Holds position :=
  ⟨covers.1.trans held.1, held.2.trans_le covers.2⟩

theorem Covers.trans {span other third : Span} (covers : span.Covers other)
    (more : other.Covers third) : span.Covers third :=
  ⟨covers.1.trans more.1, more.2.trans covers.2⟩

theorem Meets.symm {span other : Span} (meets : span.Meets other) : other.Meets span :=
  meets.imp fun _ both => both.symm

theorem holds_inter {span other : Span} {position : Nat} :
    (span.inter other).Holds position ↔ span.Holds position ∧ other.Holds position := by
  rw [Holds, Holds, Holds, inter]
  dsimp only
  omega

/-- A slice in two parts. -/
theorem slice_split {start middle stop : Nat} (before : start ≤ middle) (after : middle ≤ stop)
    (items : List α) :
    slice ⟨start, stop⟩ items = slice ⟨start, middle⟩ items ++ slice ⟨middle, stop⟩ items := by
  have first : (items.drop start).drop (middle - start) = items.drop middle := by
    rw [List.drop_drop, Nat.add_sub_cancel' before]
  have length : stop - start = (middle - start) + (stop - middle) := by omega
  rw [slice, slice, slice]
  dsimp only
  rw [List.drop_take, List.drop_take, List.drop_take, length, List.take_add, first]

/-- A slice around a part of it. -/
theorem slice_eq_of_covers {span part : Span} (ordered : part.start ≤ part.stop)
    (covers : span.Covers part) (items : List α) :
    span.slice items = slice ⟨span.start, part.start⟩ items ++
      (part.slice items ++ slice ⟨part.stop, span.stop⟩ items) := by
  rw [← slice_split ordered covers.2, ← slice_split covers.1 (ordered.trans covers.2)]

theorem slice_map {β : Type*} (code : α → β) (span : Span) (items : List α) :
    (span.slice items).map code = span.slice (items.map code) := by
  rw [slice, slice, List.map_drop, List.map_take]

theorem getElem?_slice {span : Span} {items : List α} {offset : Nat} :
    (span.slice items)[offset]? =
      if span.start + offset < span.stop then items[span.start + offset]? else none := by
  rw [slice, List.getElem?_drop, List.getElem?_take]

end Span

/-- The windows reach beyond what they repeat. -/
structure WindowSize where
  size : Nat
  overlap : Nat
  advances : overlap < size

namespace WindowSize

variable (window : WindowSize)

/-- The windows of the positions from `start` up to `length`. -/
def spans (length start : Nat) : List Span :=
  if start + window.size < length then
    ⟨start, start + window.size⟩ :: spans length (start + window.size - window.overlap)
  else
    [⟨start, length⟩]
termination_by length - start
decreasing_by
  have advances := window.advances
  omega

variable {window} {length start : Nat}

/-- The first window. -/
theorem spans_eq_cons :
    ∃ rest, window.spans length start = ⟨start, min (start + window.size) length⟩ :: rest := by
  rw [spans]
  split
  next inside => exact ⟨_, by rw [min_eq_left inside.le]⟩
  next last => exact ⟨_, by rw [min_eq_right (not_lt.mp last)]⟩

/-- The positions of a window. -/
theorem bounds_of_mem (inside : start < length) {span : Span}
    (member : span ∈ window.spans length start) :
    start ≤ span.start ∧ span.start < span.stop ∧ span.stop ≤ length ∧
      span.stop ≤ span.start + window.size := by
  have advances := window.advances
  induction start using spans.induct window length with
  | case1 start further ih =>
      rw [spans, if_pos further, List.mem_cons] at member
      cases member with
      | inl first =>
          subst first
          dsimp only
          omega
      | inr later =>
          have bounds := ih (by omega) later
          omega
  | case2 start last =>
      rw [spans, if_neg last, List.mem_singleton] at member
      subst member
      dsimp only
      omega

/-- Windows that start with repeated elements have a new one too. -/
theorem overlap_lt_length (inside : start + window.overlap < length) {span : Span}
    (member : span ∈ window.spans length start) : window.overlap < span.length := by
  have advances := window.advances
  rw [Span.length]
  induction start using spans.induct window length with
  | case1 start further ih =>
      rw [spans, if_pos further, List.mem_cons] at member
      cases member with
      | inl first =>
          subst first
          dsimp only
          omega
      | inr later => exact ih (by omega) later
  | case2 start last =>
      rw [spans, if_neg last, List.mem_singleton] at member
      subst member
      dsimp only
      omega

/-- All windows but the first have more elements than they repeat. -/
theorem overlap_lt_length_of_mem_tail {span : Span}
    (member : span ∈ (window.spans length start).tail) : window.overlap < span.length := by
  have advances := window.advances
  rw [spans] at member
  split at member
  next further =>
    apply overlap_lt_length _ member
    omega
  next last => cases member

/-- A window goes on from the one before: it starts with what that one ends with, and has at
least one new position. -/
structure Follows (overlap length : Nat) (span next : Span) : Prop where
  moves : span.start < next.start
  shared : next.start + overlap = span.stop
  reaches : span.stop < next.stop
  inside : next.stop ≤ length

theorem isChain_spans : (window.spans length start).IsChain (Follows window.overlap length) := by
  have advances := window.advances
  induction start using spans.induct window length with
  | case1 start further ih =>
      rcases @spans_eq_cons window length (start + window.size - window.overlap) with
        ⟨rest, first⟩
      rw [spans, if_pos further]
      rw [first] at ih ⊢
      refine List.IsChain.cons_cons ⟨?_, ?_, ?_, min_le_right _ _⟩ ih
      all_goals
        dsimp only
        omega
  | case2 start last =>
      rw [spans, if_neg last]
      exact List.isChain_singleton _

/-- The elements that two windows share. -/
theorem Follows.slice_eq {α : Type*} {overlap : Nat} {span next : Span} {items : List α}
    (follows : Follows overlap items.length span next) :
    (span.slice items).drop (span.length - overlap) = (next.slice items).take overlap := by
  rcases follows with ⟨moves, shared, reaches, inside⟩
  rw [Span.slice, Span.slice, List.drop_drop, List.take_drop, List.take_take, Span.length]
  have from' : span.start + (span.stop - span.start - overlap) = next.start := by omega
  have upTo : min (next.start + overlap) next.stop = span.stop := by omega
  rw [from', upTo]

/-- Every position lies in a window. -/
theorem exists_holds {position : Nat} (after : start ≤ position) (inside : position < length) :
    ∃ span ∈ window.spans length start, span.Holds position := by
  have advances := window.advances
  induction start using spans.induct window length with
  | case1 start further ih =>
      rw [spans, if_pos further]
      by_cases early : position < start + window.size
      · exact ⟨_, List.mem_cons_self, after, early⟩
      · rcases ih (by omega) with ⟨span, member, holds⟩
        exact ⟨span, List.mem_cons_of_mem _ member, holds⟩
  | case2 start last =>
      rw [spans, if_neg last]
      exact ⟨_, List.mem_singleton_self _, after, inside⟩

/-- The windows by number: each starts one step behind the one before, as long as that one has
not reached the end. -/
theorem mem_spans_iff {span : Span} :
    span ∈ window.spans length start ↔
      ∃ count, (count = 0 ∨
          start + count * (window.size - window.overlap) + window.overlap < length) ∧
        span = ⟨start + count * (window.size - window.overlap),
          min (start + count * (window.size - window.overlap) + window.size) length⟩ := by
  have advances := window.advances
  generalize step : window.size - window.overlap = distance
  induction start using spans.induct window length with
  | case1 start further ih =>
      have onwards : start + window.size - window.overlap = start + distance := by
        rw [← step, Nat.add_sub_assoc advances.le]
      have succ : ∀ count,
          start + (count + 1) * distance = start + distance + count * distance := by
        intro count
        rw [Nat.succ_mul, Nat.add_comm _ distance, Nat.add_assoc]
      rw [onwards] at ih
      rw [spans, if_pos further, onwards, List.mem_cons, Iff.intro ih.mp ih.mpr]
      constructor
      · rintro (rfl | ⟨count, exists', rfl⟩)
        · exact ⟨0, .inl rfl, by rw [Nat.zero_mul, Nat.add_zero, min_eq_left further.le]⟩
        · refine ⟨count + 1, .inr ?_, by rw [succ]⟩
          rw [succ]
          rcases exists' with rfl | within
          · omega
          · exact within
      · rintro ⟨count, exists', rfl⟩
        cases count with
        | zero =>
            left
            rw [Nat.zero_mul, Nat.add_zero, min_eq_left further.le]
        | succ count =>
            right
            refine ⟨count, .inr ?_, by rw [succ]⟩
            rw [← succ]
            exact exists'.resolve_left (Nat.succ_ne_zero count)
  | case2 start last =>
      rw [spans, if_neg last, List.mem_singleton]
      constructor
      · rintro rfl
        exact ⟨0, .inl rfl, by rw [Nat.zero_mul, Nat.add_zero, min_eq_right (not_lt.mp last)]⟩
      · rintro ⟨count, exists', rfl⟩
        cases count with
        | zero => rw [Nat.zero_mul, Nat.add_zero, min_eq_right (not_lt.mp last)]
        | succ count =>
            rw [Nat.succ_mul] at exists'
            omega

/-! ## Putting a list together again -/

section Reassembly

variable {α : Type*}

/-- The first window and the others without what they repeat. -/
def reassemble (overlap : Nat) : List (List α) → List α
  | [] => []
  | first :: rest => first ++ rest.flatMap (·.drop overlap)

theorem drop_reassemble {overlap : Nat} {first : List α} (rest : List (List α))
    (repeated : overlap ≤ first.length) :
    (reassemble overlap (first :: rest)).drop overlap =
      (first :: rest).flatMap (·.drop overlap) := by
  rw [reassemble, List.drop_append_of_le_length repeated, List.flatMap_cons]

/-- The windows of a list give back the list. -/
theorem reassemble_spans {items : List α} (inside : start < items.length) :
    reassemble window.overlap ((window.spans items.length start).map (·.slice items)) =
      items.drop start := by
  have advances := window.advances
  induction start using spans.induct window items.length with
  | case1 start further ih =>
      have onwards := ih (by omega)
      rcases @spans_eq_cons window items.length (start + window.size - window.overlap) with
        ⟨rest, first⟩
      rw [spans, if_pos further, first, List.map_cons, reassemble]
      rw [first, List.map_cons] at onwards
      rw [List.map_cons, ← drop_reassemble, onwards, List.drop_drop]
      · have stop : start + window.size - window.overlap + window.overlap =
            start + window.size := by omega
        rw [stop]
        exact Span.slice_append_drop (Nat.le_add_right start window.size) items
      · rw [Span.length_slice (min_le_right _ _), Span.length]
        dsimp only
        omega
  | case2 start last =>
      rw [spans, if_neg last, List.map_singleton, reassemble, List.flatMap_nil, List.append_nil,
        Span.slice, List.take_length]

end Reassembly

end WindowSize
