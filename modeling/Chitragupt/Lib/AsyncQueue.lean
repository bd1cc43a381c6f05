import Mathlib.Data.List.Basic
import Mathlib.Tactic.TypeStar

/-!
# Bounded queues of a cooperative scheduler

The queue between two tasks: the writer waits while it is full, the reader while it is
empty.  A bound that is not positive is no bound.  Writers close a queue of optional
items with a mark behind the last item.
-/

namespace Python

/-- `asyncio.Queue`. -/
structure AsyncQueue (α : Type*) where
  maxsize : Int
  items : List α

namespace AsyncQueue

variable {α : Type*}

def new (maxsize : Int) : AsyncQueue α where
  maxsize
  items := []

def full (queue : AsyncQueue α) : Bool :=
  decide (0 < queue.maxsize ∧ queue.maxsize ≤ queue.items.length)

def put (item : α) (queue : AsyncQueue α) : AsyncQueue α :=
  { queue with items := queue.items ++ [item] }

/-- `put_nowait` with its `QueueFull` ignored. -/
def tryPut (item : α) (queue : AsyncQueue α) : AsyncQueue α :=
  if queue.full then queue else queue.put item

theorem full_iff {queue : AsyncQueue α} :
    queue.full = true ↔ 0 < queue.maxsize ∧ queue.maxsize ≤ queue.items.length := by
  simp [full]

/-- Only a queue with items is full. -/
theorem ne_nil_of_full {queue : AsyncQueue α} (full : queue.full = true) :
    queue.items ≠ [] := by
  intro empty
  have bound := full_iff.mp full
  rw [empty, List.length_nil] at bound
  omega

@[simp] theorem maxsize_put (item : α) (queue : AsyncQueue α) :
    (queue.put item).maxsize = queue.maxsize := rfl

@[simp] theorem items_put (item : α) (queue : AsyncQueue α) :
    (queue.put item).items = queue.items ++ [item] := rfl

@[simp] theorem maxsize_tryPut (item : α) (queue : AsyncQueue α) :
    (queue.tryPut item).maxsize = queue.maxsize := by
  rw [tryPut]
  split <;> rfl

theorem length_tryPut_le (queue : AsyncQueue α) (item : α) :
    (queue.tryPut item).items.length ≤ queue.items.length + 1 := by
  rw [tryPut]
  split
  · omega
  · simp

/-! ## Queues with closing marks -/

/-- A queue of items with closing marks behind them. -/
def Holds (queue : AsyncQueue (Option α)) (items : List α) (marks : Nat) : Prop :=
  queue.items = items.map some ++ List.replicate marks none

namespace Holds

variable {queue : AsyncQueue (Option α)} {items : List α} {marks : Nat}

theorem new (maxsize : Int) : (AsyncQueue.new maxsize : AsyncQueue (Option α)).Holds [] 0 := rfl

/-- An item goes in behind the items of an open queue. -/
theorem put_some (holds : queue.Holds items 0) (item : α) :
    (queue.put (some item)).Holds (items ++ [item]) 0 := by
  simp only [Holds, List.replicate_zero, List.append_nil] at holds
  simp [Holds, holds]

theorem put_none (holds : queue.Holds items marks) :
    (queue.put none).Holds items (marks + 1) := by
  rw [Holds] at holds
  rw [Holds, items_put, holds, List.append_assoc, List.replicate_succ']

/-- The first entry is the first item. -/
theorem of_cons_some {item : α} {rest : List (Option α)} {maxsize : Int}
    (holds : (AsyncQueue.mk maxsize (some item :: rest)).Holds items marks) :
    ∃ later, items = item :: later ∧ (AsyncQueue.mk maxsize rest).Holds later marks := by
  cases items with
  | nil =>
      rw [Holds] at holds
      cases marks <;> simp [List.replicate_succ] at holds
  | cons first later =>
      simp only [Holds, List.map_cons, List.cons_append, List.cons.injEq,
        Option.some.injEq] at holds
      exact ⟨later, by rw [holds.1], holds.2⟩

/-- The first entry is a mark only when no item is left. -/
theorem of_cons_none {rest : List (Option α)} {maxsize : Int}
    (holds : (AsyncQueue.mk maxsize (none :: rest)).Holds items marks) :
    items = [] ∧ ∃ fewer, marks = fewer + 1 ∧ (AsyncQueue.mk maxsize rest).Holds [] fewer := by
  cases items with
  | cons first later => simp [Holds] at holds
  | nil =>
      cases marks with
      | zero => simp [Holds] at holds
      | succ fewer =>
          simp only [Holds, List.map_nil, List.nil_append, List.replicate_succ,
            List.cons.injEq, true_and] at holds
          exact ⟨rfl, fewer, rfl, holds⟩

/-- A mark is in the queue. -/
theorem none_mem (holds : queue.Holds items marks) (closed : marks ≠ 0) :
    none ∈ queue.items := by
  rw [holds]
  exact List.mem_append_right _ (List.mem_replicate.mpr ⟨closed, rfl⟩)

theorem length (holds : queue.Holds items marks) :
    queue.items.length = items.length + marks := by
  rw [holds, List.length_append, List.length_map, List.length_replicate]

/-- A closed queue gets another mark, or is full and keeps the one it has. -/
theorem tryPut_none (holds : queue.Holds items marks) (closed : marks = 0 → items = []) :
    ∃ more, more ≠ 0 ∧ (queue.tryPut none).Holds items more := by
  rw [tryPut]
  split
  next full =>
    refine ⟨marks, ?_, holds⟩
    intro unmarked
    apply ne_nil_of_full full
    rw [holds, unmarked, closed unmarked]
    rfl
  next => exact ⟨marks + 1, Nat.succ_ne_zero marks, holds.put_none⟩

end Holds

end AsyncQueue

end Python
