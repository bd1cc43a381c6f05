import Mathlib.Data.List.Sort
import Mathlib.Order.Basic

/-!
# The first items by a key

Items are sorted by a key, ties are broken by a fixed order on their identifiers, and the
list is cut off.  When no two items have the same identifier, the result depends on which
items there are and not on their order.
-/

/-- A fixed order for ties. -/
structure TieOrder (ι : Type*) where
  le : ι → ι → Bool
  total : ∀ left right, le left right || le right left
  trans : ∀ left middle right, le left middle → le middle right → le left right
  antisymm : ∀ left right, le left right → le right left → left = right

/-- The order of the identifiers themselves. -/
def TieOrder.ofOrder (ι : Type*) [LinearOrder ι] : TieOrder ι where
  le left right := left ≤ right
  total left right := by simpa using le_total left right
  trans left middle right := by simpa using le_trans
  antisymm left right := by simpa using le_antisymm

namespace Ranking

variable {α ι κ : Type*} [LinearOrder κ] (ties : TieOrder ι) (id : α → ι) (key : α → κ)

/-- The smaller key, or the same one and an identifier that is not later. -/
def before (left right : α) : Bool :=
  key left < key right || (key left = key right && ties.le (id left) (id right))

/-- The first items by their key. -/
def first (count : Nat) (items : List α) : List α :=
  (items.mergeSort (before ties id key)).take count

section Order

variable {ties} {id} {key} {left middle right : α}

theorem before_iff :
    before ties id key left right = true ↔
      key left < key right ∨ key left = key right ∧ ties.le (id left) (id right) = true := by
  simp only [before, Bool.or_eq_true, Bool.and_eq_true, decide_eq_true_eq]

theorem le_of_before (earlier : before ties id key left right = true) : key left ≤ key right := by
  rcases before_iff.mp earlier with less | ⟨same, _⟩
  next => exact less.le
  next => exact same.le

theorem before_total : (before ties id key left right || before ties id key right left) = true := by
  rw [Bool.or_eq_true, before_iff, before_iff]
  rcases lt_trichotomy (key left) (key right) with less | same | greater
  next => exact .inl (.inl less)
  next =>
    rcases Bool.or_eq_true _ _ ▸ ties.total (id left) (id right) with le | ge
    · exact .inl (.inr ⟨same, le⟩)
    · exact .inr (.inr ⟨same.symm, ge⟩)
  next => exact .inr (.inl greater)

theorem before_trans (earlier : before ties id key left middle = true)
    (later : before ties id key middle right = true) : before ties id key left right = true := by
  rw [before_iff] at earlier later ⊢
  rcases earlier with less | ⟨same, le⟩ <;> rcases later with less' | ⟨same', le'⟩
  · exact .inl (less.trans less')
  · exact .inl (same' ▸ less)
  · exact .inl (same ▸ less')
  · exact .inr ⟨same.trans same', ties.trans _ _ _ le le'⟩

/-- Only items with the same identifier are in both orders. -/
theorem same_id_of_before (earlier : before ties id key left right = true)
    (later : before ties id key right left = true) : id left = id right := by
  rw [before_iff] at earlier later
  rcases earlier with less | ⟨same, le⟩
  next =>
    rcases later with greater | ⟨same, _⟩
    · exact absurd greater less.asymm
    · exact absurd same less.ne'
  next =>
    rcases later with greater | ⟨_, ge⟩
    · exact absurd same greater.ne'
    · exact ties.antisymm _ _ le ge

end Order

theorem pairwise_mergeSort (items : List α) :
    (items.mergeSort (before ties id key)).Pairwise fun left right =>
      before ties id key left right = true :=
  List.pairwise_mergeSort (fun _ _ _ => before_trans) (fun _ _ => before_total) items

theorem mem_of_mem_first {count : Nat} {items : List α} {item : α}
    (member : item ∈ first ties id key count items) : item ∈ items :=
  List.mem_mergeSort.mp (List.mem_of_mem_take member)

theorem length_first (count : Nat) (items : List α) :
    (first ties id key count items).length = min count items.length := by
  rw [first, List.length_take, List.length_mergeSort]

/-- A list that is not cut off is only sorted. -/
theorem first_perm {count : Nat} {items : List α} (few : items.length ≤ count) :
    (first ties id key count items).Perm items := by
  rw [first, List.take_of_length_le (by rwa [List.length_mergeSort])]
  exact List.mergeSort_perm items _

/-- The result keeps identifiers apart. -/
theorem nodup_first {count : Nat} {items : List α} (distinct : (items.map id).Nodup) :
    ((first ties id key count items).map id).Nodup := by
  have sorted : ((items.mergeSort (before ties id key)).map id).Nodup :=
    ((List.mergeSort_perm items _).map id).nodup_iff.mpr distinct
  exact ((List.take_sublist count _).map id).nodup sorted

/-- The keys of the result do not decrease. -/
theorem pairwise_first (count : Nat) (items : List α) :
    (first ties id key count items).Pairwise fun left right => key left ≤ key right :=
  ((pairwise_mergeSort ties id key items).sublist (List.take_sublist count _)).imp le_of_before

/-- The same items in another order give the same result. -/
theorem first_eq_of_perm {count : Nat} {items items' : List α} (perm : items.Perm items')
    (distinct : (items.map id).Nodup) :
    first ties id key count items = first ties id key count items' := by
  have sorted : items.mergeSort (before ties id key) = items'.mergeSort (before ties id key) := by
    refine List.Perm.eq_of_pairwise ?_ (pairwise_mergeSort ties id key items)
      (pairwise_mergeSort ties id key items') ?_
    · intro left right leftMember rightMember earlier later
      refine List.inj_on_of_nodup_map distinct (List.mem_mergeSort.mp leftMember)
        (perm.mem_iff.mpr (List.mem_mergeSort.mp rightMember)) ?_
      exact same_id_of_before earlier later
    · exact (List.mergeSort_perm items _).trans
        (perm.trans (List.mergeSort_perm items' _).symm)
  rw [first, first, sorted]

end Ranking
