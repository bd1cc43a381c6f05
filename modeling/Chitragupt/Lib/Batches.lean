import Mathlib.Data.List.Infix
import Mathlib.Tactic.TypeStar

/-!
# Batches and their answers

A list of items is sent in batches, and the answers are joined again.  The joined answers are
in line with the items when the places that they come from are the places of the items, and
this is a matter of the lengths of the answers.
-/

namespace Batches

variable {α β : Type*}

/-! ## Places -/

/-- The places of one batch. -/
def block (number length : Nat) : List (Nat × Nat) := (List.range length).map (number, ·)

/-- The items of the batches from a number on, each with the batch and the position in it. -/
def placed : Nat → List (List α) → List ((Nat × Nat) × α)
  | _, [] => []
  | number, batch :: rest => (block number batch.length).zip batch ++ placed (number + 1) rest

/-- The places of the items. -/
def places (number : Nat) (batches : List (List α)) : List (Nat × Nat) :=
  (placed number batches).map Prod.fst

@[simp] theorem length_block (number length : Nat) : (block number length).length = length := by
  simp [block]

theorem map_snd_placed (number : Nat) (batches : List (List α)) :
    (placed number batches).map Prod.snd = batches.flatten := by
  induction batches generalizing number with
  | nil => rfl
  | cons batch rest ih =>
      rw [placed, List.map_append, ih, List.map_snd_zip (by simp), List.flatten_cons]

@[simp] theorem places_nil (number : Nat) : places number ([] : List (List α)) = [] := rfl

@[simp] theorem places_cons (number : Nat) (batch : List α) (rest : List (List α)) :
    places number (batch :: rest) = block number batch.length ++ places (number + 1) rest := by
  rw [places, placed, List.map_append, ← places, List.map_fst_zip (by simp)]

theorem length_places (number : Nat) (batches : List (List α)) :
    (places number batches).length = batches.flatten.length := by
  rw [places, List.length_map, ← map_snd_placed number, List.length_map]

/-- Later batches have greater numbers. -/
theorem le_of_mem_places {number : Nat} {batches : List (List α)} {place : Nat × Nat}
    (member : place ∈ places number batches) : number ≤ place.1 := by
  induction batches generalizing number with
  | nil => cases member
  | cons batch rest ih =>
      rw [places_cons, List.mem_append] at member
      rcases member with here | later
      · rcases List.mem_map.mp here with ⟨position, _, rfl⟩
        exact Nat.le_refl _
      · exact Nat.le_of_succ_le (ih later)

/-! ## Prefixes -/

section Prefixes

variable {number length other : Nat} {later others : List (Nat × Nat)}

/-- A longer block is a shorter one and more. -/
theorem block_eq_append (longer : length ≤ other) :
    block number other =
      block number length ++ (List.range' length (other - length)).map (number, ·) := by
  rw [block, block, ← List.map_append, List.range_eq_range', List.range_eq_range']
  have joined : List.range' 0 length ++ List.range' (0 + length) (other - length) =
      List.range' 0 (length + (other - length)) := List.range'_append_1
  rw [Nat.zero_add, Nat.add_sub_cancel' longer] at joined
  rw [joined]

/-- What starts with a block has no shorter one in its place. -/
theorem length_le_of_prefix (above : ∀ place ∈ others, number < place.1)
    (starts : block number length ++ later <+: block number other ++ others) :
    length ≤ other := by
  have kept := (List.prefix_append (block number length) later).trans starts
  have filtered := kept.filter (fun place => place.1 == number)
  have own (count : Nat) : (block number count).filter (fun place => place.1 == number) =
      block number count := by
    rw [List.filter_eq_self]
    intro place member
    rcases List.mem_map.mp member with ⟨position, _, rfl⟩
    exact beq_self_eq_true number
  have none : others.filter (fun place => place.1 == number) = [] := by
    rw [List.filter_eq_nil_iff]
    intro place member same
    exact absurd (eq_of_beq same) (Nat.ne_of_gt (above place member))
  rw [List.filter_append, own, own, none, List.append_nil] at filtered
  simpa using filtered.length_le

/-- A block and later places start another such list when the blocks are as long and the rest
starts the rest. -/
theorem block_append_prefix (left : later ≠ []) (laterAbove : ∀ place ∈ later, number < place.1)
    (othersAbove : ∀ place ∈ others, number < place.1) :
    block number length ++ later <+: block number other ++ others ↔
      other = length ∧ later <+: others := by
  constructor
  · intro starts
    have longer := length_le_of_prefix othersAbove starts
    rw [block_eq_append longer, List.append_assoc, List.prefix_append_right_inj] at starts
    cases difference : other - length with
    | zero =>
        rw [difference] at starts
        exact ⟨by omega, starts⟩
    | succ more =>
        -- The first of the later places would lie in the block.
        rw [difference] at starts
        cases later with
        | nil => exact absurd rfl left
        | cons place rest =>
            have same := (List.cons_prefix_cons.mp starts).1
            have greater := laterAbove place List.mem_cons_self
            rw [same] at greater
            exact absurd greater (Nat.lt_irrefl _)
  · rintro ⟨rfl, starts⟩
    exact (List.prefix_append_right_inj _).mpr starts

end Prefixes

/-! ## Answers -/

/-- Every batch but the last is answered item by item, and the last one at least so. -/
def Answered : List (List α) → List (List β) → Prop
  | [], _ => True
  | _ :: _, [] => False
  | [batch], answer :: _ => batch.length ≤ answer.length
  | batch :: next :: rest, answer :: answers =>
      answer.length = batch.length ∧ Answered (next :: rest) answers

theorem above_of_places {items : List (List α)} {number : Nat} :
    ∀ place ∈ places (number + 1) items, number < place.1 :=
  fun _ member => le_of_mem_places member

theorem places_ne_nil {batches : List (List α)} {number : Nat} (nonempty : [] ∉ batches)
    (some : batches ≠ []) : places number batches ≠ [] := by
  cases batches with
  | nil => exact absurd rfl some
  | cons batch rest =>
      rw [List.mem_cons, not_or] at nonempty
      have filled := List.length_pos_of_ne_nil (Ne.symm nonempty.1)
      rw [places_cons]
      apply List.ne_nil_of_length_pos
      rw [List.length_append, length_block]
      exact Nat.add_pos_left filled _

/-- The answers are in line with the items exactly when the batches are answered. -/
theorem places_prefix_iff {batches : List (List α)} (nonempty : [] ∉ batches)
    (answers : List (List β)) (number : Nat) :
    places number batches <+: places number answers ↔ Answered batches answers := by
  induction batches generalizing answers number with
  | nil => simp [Answered]
  | cons batch rest ih =>
      cases answers with
      | nil =>
          rw [places_nil, List.prefix_nil, Answered]
          exact iff_of_false (places_ne_nil nonempty (List.cons_ne_nil _ _)) not_false
      | cons answer answers =>
          rw [List.mem_cons, not_or] at nonempty
          cases rest with
          | nil =>
              rw [Answered, places_cons, places_cons, places_nil]
              constructor
              · exact length_le_of_prefix above_of_places
              · intro longer
                rw [block_eq_append longer, List.append_nil, List.append_assoc]
                exact List.prefix_append _ _
          | cons next rest =>
              rw [Answered, places_cons, places_cons number answer, ← ih nonempty.2]
              exact block_append_prefix (places_ne_nil nonempty.2 (List.cons_ne_nil _ _))
                above_of_places above_of_places

/-! ## Chunks of a list -/

/-- The chunks made so far, the one that is being filled, and the rest. -/
theorem flatten_toChunks_go (size : Nat) (items : List α) (current : Array α)
    (done : Array (List α)) :
    (List.toChunks.go size items current done).flatten =
      done.toList.flatten ++ current.toList ++ items := by
  induction items generalizing current done with
  | nil => simp [List.toChunks.go]
  | cons item rest ih =>
      rw [List.toChunks.go]
      split <;> simp [ih]

/-- The chunks of a list joined are the list. -/
theorem flatten_toChunks (size : Nat) (items : List α) :
    (items.toChunks size).flatten = items := by
  unfold List.toChunks
  split
  · rfl
  · simp
  · simp [flatten_toChunks_go]

theorem nil_not_mem_toChunks_go {size : Nat} {items : List α} {current : Array α}
    {done : Array (List α)} (filled : current ≠ #[]) (others : [] ∉ done.toList) :
    [] ∉ List.toChunks.go size items current done := by
  induction items generalizing current done with
  | nil =>
      rw [List.toChunks.go, Array.toList_push, List.mem_append, List.mem_singleton, not_or]
      refine ⟨others, fun empty => filled ?_⟩
      exact Array.toList_eq_nil_iff.mp empty.symm
  | cons item rest ih =>
      rw [List.toChunks.go]
      split
      · apply ih (by simp)
        rw [Array.toList_push, List.mem_append, List.mem_singleton, not_or]
        exact ⟨others, fun empty => filled (Array.toList_eq_nil_iff.mp empty.symm)⟩
      · exact ih (by simp) others

/-- No chunk is empty. -/
theorem nil_not_mem_toChunks (size : Nat) (items : List α) : [] ∉ items.toChunks size := by
  unfold List.toChunks
  split
  · simp
  next nonempty =>
    rw [List.mem_singleton]
    exact fun empty => nonempty empty.symm
  · exact nil_not_mem_toChunks_go (by simp) (by simp)

end Batches
