import Mathlib.Logic.Relation
import Mathlib.Order.WellFounded
import Mathlib.Tactic.TypeStar

/-!
# Systems that take labelled steps

Concurrent parties are described by the steps that any of them may take next.  This
module gives the states such a system reaches, the rule that carries an invariant to
all of them, and the rule that turns a decreasing measure into progress.
-/

namespace Transitions

/-- A system whose steps carry labels. -/
structure System (σ α : Type*) where
  step : σ → α → σ → Prop

namespace System

variable {σ α : Type*} (system : System σ α)

/-- A step with an allowed label. -/
def Moves (allowed : α → Prop) (before after : σ) : Prop :=
  ∃ label, allowed label ∧ system.step before label after

/-- States reached by steps with allowed labels. -/
def Reaches (allowed : α → Prop) : σ → σ → Prop :=
  Relation.ReflTransGen (system.Moves allowed)

/-- No step with an allowed label is possible. -/
def Stuck (allowed : α → Prop) (state : σ) : Prop :=
  ∀ label after, allowed label → ¬system.step state label after

variable {system} {allowed : α → Prop}

theorem Reaches.refl (state : σ) : system.Reaches allowed state state :=
  Relation.ReflTransGen.refl

theorem Reaches.trans {start middle final : σ} (first : system.Reaches allowed start middle)
    (second : system.Reaches allowed middle final) : system.Reaches allowed start final :=
  Relation.ReflTransGen.trans first second

theorem Reaches.tail {start before after : σ} {label : α}
    (reached : system.Reaches allowed start before) (permitted : allowed label)
    (step : system.step before label after) : system.Reaches allowed start after :=
  Relation.ReflTransGen.tail reached ⟨label, permitted, step⟩

theorem Reaches.head {before after final : σ} {label : α} (permitted : allowed label)
    (step : system.step before label after) (reached : system.Reaches allowed after final) :
    system.Reaches allowed before final :=
  Relation.ReflTransGen.head ⟨label, permitted, step⟩ reached

/-- More labels reach more states. -/
theorem Reaches.mono {weaker : α → Prop} (implies : ∀ label, allowed label → weaker label)
    {start final : σ} (reached : system.Reaches allowed start final) :
    system.Reaches weaker start final := by
  induction reached with
  | refl => exact .refl start
  | tail _ move ih =>
      rcases move with ⟨label, permitted, step⟩
      exact ih.tail (implies label permitted) step

/-- What holds at the start and survives every allowed step holds of every state
reached. -/
theorem Reaches.invariant (property : σ → Prop)
    (kept : ∀ before label after, allowed label → system.step before label after →
      property before → property after)
    {start final : σ} (reached : system.Reaches allowed start final)
    (holds : property start) : property final := by
  induction reached with
  | refl => exact holds
  | tail _ move ih =>
      rcases move with ⟨label, permitted, step⟩
      exact kept _ label _ permitted step ih

/-- A stuck state reaches only itself. -/
theorem Stuck.eq_of_reaches {state final : σ} (stuck : system.Stuck allowed state)
    (reached : system.Reaches allowed state final) : final = state := by
  rcases reached.cases_head with same | ⟨after, ⟨label, permitted, step⟩, _⟩
  · exact same.symm
  · exact absurd step (stuck label after permitted)

variable (system allowed) in
/-- Every run with allowed labels comes to an end. -/
def Terminates : Prop := WellFounded fun after before => system.Moves allowed before after

/-- Where every run ends, some run ends in a stuck state. -/
theorem Terminates.exists_stuck (terminates : system.Terminates allowed) (start : σ) :
    ∃ final, system.Reaches allowed start final ∧ system.Stuck allowed final := by
  induction start using terminates.induction with
  | _ start ih =>
      by_cases stuck : system.Stuck allowed start
      · exact ⟨start, .refl start, stuck⟩
      · simp only [Stuck, not_forall, not_not] at stuck
        rcases stuck with ⟨label, after, permitted, step⟩
        rcases ih after ⟨label, permitted, step⟩ with ⟨final, reached, ended⟩
        exact ⟨final, .head permitted step reached, ended⟩

/-- A measure that every allowed step lowers bounds all runs. -/
theorem terminates_of_measure (measure : σ → ℕ)
    (lowers : ∀ before label after, allowed label → system.step before label after →
      measure after < measure before) : system.Terminates allowed := by
  apply Subrelation.wf (r := InvImage (· < ·) measure) _ (InvImage.wf measure Nat.lt_wfRel.wf)
  rintro after before ⟨label, permitted, step⟩
  exact lowers before label after permitted step

end System

end Transitions
