import Mathlib.Data.List.Induction
import Mathlib.Order.Basic
import Mathlib.Tactic.TypeStar

/-!
# The time of the last change

A record that is stamped with a time should carry the time of the last event that changed
it.  An event takes a while, so its time is a window, and a stamp is right when it lies in
the window of the last change.
-/

/-- The readings of a clock between the start and the end of an event. -/
structure Window (τ : Type*) [LE τ] where
  starts : τ
  ends : τ
  ordered : starts ≤ ends

namespace Window

variable {τ : Type*} [Preorder τ]

def Contains (window : Window τ) (time : τ) : Prop := window.starts ≤ time ∧ time ≤ window.ends

/-- One window is over before the other begins. -/
def Before (first second : Window τ) : Prop := first.ends < second.starts

/-- No reading lies in both. -/
theorem Before.not_contains {first second : Window τ} (before : first.Before second) {time : τ}
    (early : first.Contains time) : ¬second.Contains time := by
  intro late
  have between : time < time := lt_of_lt_of_le (lt_of_le_of_lt early.2 before) late.1
  exact lt_irrefl time between

end Window

namespace LastChange

variable {α τ : Type*} [Preorder τ]

/-- The time lies in the window of the last event that is a change. -/
def Marks (changes : α → Prop) (window : α → Window τ) (events : List α) (time : τ) : Prop :=
  ∃ earlier event later, events = earlier ++ event :: later ∧ changes event ∧
    (∀ other ∈ later, ¬changes other) ∧ (window event).Contains time

variable {changes : α → Prop} {window : α → Window τ} {events : List α} {event : α} {time : τ}

/-- The last event decides if it is a change. -/
theorem marks_concat_of_change (change : changes event) :
    Marks changes window (events ++ [event]) time ↔ (window event).Contains time := by
  constructor
  · rintro ⟨earlier, last, later, split, _, unchanged, marked⟩
    cases later using List.reverseRecOn with
    | nil =>
        rcases List.append_inj' split rfl with ⟨_, same⟩
        rw [List.cons.injEq] at same
        rwa [same.1]
    | append_singleton later other =>
        rw [← List.cons_append, ← List.append_assoc] at split
        rcases List.append_inj' split rfl with ⟨_, same⟩
        rw [List.cons.injEq] at same
        have member : event ∈ later ++ [other] := by simp [same.1]
        exact absurd change (unchanged event member)
  · intro marked
    exact ⟨events, event, [], rfl, change, nofun, marked⟩

/-- Otherwise the events before it do. -/
theorem marks_concat_of_not_change (change : ¬changes event) :
    Marks changes window (events ++ [event]) time ↔ Marks changes window events time := by
  constructor
  · rintro ⟨earlier, last, later, split, changed, unchanged, marked⟩
    cases later using List.reverseRecOn with
    | nil =>
        rcases List.append_inj' split rfl with ⟨_, same⟩
        rw [List.cons.injEq] at same
        exact absurd (same.1 ▸ changed) change
    | append_singleton later other =>
        rw [← List.cons_append, ← List.append_assoc] at split
        rcases List.append_inj' split rfl with ⟨same, _⟩
        refine ⟨earlier, last, later, same, changed, ?_, marked⟩
        intro before member
        exact unchanged before (List.mem_append_left _ member)
  · rintro ⟨earlier, last, later, rfl, changed, unchanged, marked⟩
    refine ⟨earlier, last, later ++ [event], by simp, changed, ?_, marked⟩
    rw [List.forall_mem_append, List.forall_mem_singleton]
    exact ⟨unchanged, change⟩

/-- A marked time lies in the window of some event. -/
theorem Marks.exists_contains (marks : Marks changes window events time) :
    ∃ event ∈ events, (window event).Contains time := by
  rcases marks with ⟨earlier, event, later, rfl, _, _, marked⟩
  exact ⟨event, List.mem_append_right _ List.mem_cons_self, marked⟩

end LastChange
