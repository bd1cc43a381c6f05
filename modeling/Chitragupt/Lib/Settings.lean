import Mathlib.Data.List.Basic
import Mathlib.Logic.Function.Basic
import Mathlib.Tactic.TypeStar

/-!
# Settings that last for a transaction

A command may set a value for the rest of its transaction.  A statement observes what was
set before it in its own transaction, and the settings of the session for the rest.
-/

namespace Settings

variable {κ ν τ : Type*}

inductive Command (κ ν τ : Type*) where
  | setLocal (name : κ) (value : ν)
  | statement (statement : τ)

/-- The statements of a transaction and the settings that they are executed under. -/
def observed [DecidableEq κ] (settings : κ → Option ν) :
    List (Command κ ν τ) → List (τ × (κ → Option ν))
  | [] => []
  | .setLocal name value :: commands =>
      observed (Function.update settings name (some value)) commands
  | .statement statement :: commands => (statement, settings) :: observed settings commands

variable [DecidableEq κ] {settings : κ → Option ν} {commands : List (Command κ ν τ)} {name : κ}

/-- A transaction that leaves a setting alone is executed under the one of the session. -/
theorem eq_of_mem_observed (unset : ∀ value, .setLocal name value ∉ commands) :
    ∀ entry ∈ observed settings commands, entry.2 name = settings name := by
  induction commands generalizing settings with
  | nil =>
      intro entry member
      cases member
  | cons command commands ih =>
      have later : ∀ value, .setLocal name value ∉ commands :=
        fun value member => unset value (List.mem_cons_of_mem _ member)
      cases command with
      | setLocal other value =>
          have different : name ≠ other := by
            rintro rfl
            exact unset value List.mem_cons_self
          intro entry member
          rw [ih later entry member, Function.update_of_ne different]
      | statement statement =>
          intro entry member
          rcases List.mem_cons.mp member with rfl | member
          · rfl
          · exact ih later entry member

/-- Within one transaction the value that was set is there. -/
example (value : ν) (statement : τ) :
    (observed settings [.setLocal name value, .statement statement]).map (·.2 name) =
      [some value] := by
  simp [observed]

end Settings
