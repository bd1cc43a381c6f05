import Chitragupt.Lib.Machine

/-!
# Observers of a store

An observer sees some of the components of a store.  An answer that depends on one
component keeps the others from an observer exactly when the component is there and the
observer sees it.
-/

namespace Machines.Store

variable {κ σ ρ : Type*} [DecidableEq κ]

/-- An observer of the visible components cannot tell the stores apart. -/
def AgreeOn (visible : σ → Prop) (first second : Store κ σ) : Prop :=
  ∀ key state, visible state → (first key = some state ↔ second key = some state)

/-- The store without the component of a key. -/
def erase (store : Store κ σ) (key : κ) : Store κ σ := Function.update store key none

variable {visible : σ → Prop} {store : Store κ σ} {key : κ} {hidden : σ}

/-- A component that nobody sees can be added where there is none. -/
theorem agreeOn_insert (absent : store key = none) (invisible : ¬visible hidden) :
    store.AgreeOn visible (store.insert key hidden) := by
  intro other state seen
  by_cases same : other = key
  · subst same
    rw [absent, insert_self, Option.some.injEq]
    constructor
    · intro found
      cases found
    · rintro rfl
      exact absurd seen invisible
  · rw [insert_of_ne store hidden same]

/-- A component that nobody sees can be taken away. -/
theorem agreeOn_erase (present : store key = some hidden) (invisible : ¬visible hidden) :
    store.AgreeOn visible (store.erase key) := by
  intro other state seen
  by_cases same : other = key
  · subst same
    rw [present, erase, Function.update_self, Option.some.injEq]
    constructor
    · rintro rfl
      exact absurd seen invisible
    · intro found
      cases found
  · rw [erase, Function.update_of_ne same]

/-- An answer that tells a missing component from one that is there is the same in all
stores that look the same exactly when it is about a component that is seen. -/
theorem determined_iff (invisible : ¬visible hidden) {answer : Option σ → ρ}
    (distinguishes : ∀ state, answer none ≠ answer (some state)) :
    (∀ other : Store κ σ, store.AgreeOn visible other →
      answer (store key) = answer (other key)) ↔
      ∃ state, store key = some state ∧ visible state := by
  constructor
  · intro determined
    cases present : store key with
    | none =>
        have same := determined _ (agreeOn_insert present invisible)
        rw [present, insert_self] at same
        exact absurd same (distinguishes hidden)
    | some state =>
        refine ⟨state, rfl, ?_⟩
        by_contra unseen
        have same := determined _ (agreeOn_erase present unseen)
        rw [present, erase, Function.update_self] at same
        exact distinguishes state same.symm
  · rintro ⟨state, present, seen⟩ other agrees
    rw [present, (agrees key state seen).mp present]

end Machines.Store
