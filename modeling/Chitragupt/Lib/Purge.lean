import Chitragupt.Lib.Machine

/-!
# Hidden inputs

Some inputs of a machine are hidden.  What the visible ones are answered does not depend
on them if some relation between states unwinds: hidden inputs keep to it, and related
states answer alike.
-/

namespace Machines.Machine

variable {σ ι ο : Type*} (machine : Machine σ ι ο) (visible : ι → Bool)

/-- The answers to the visible inputs of a run. -/
def answers (state : σ) (inputs : List ι) : List ο :=
  ((machine.trace state inputs).filter fun happened => visible happened.input).map (·.output)

variable {visible} in
theorem answers_cons_of_visible {input : ι} (seen : visible input = true) (state : σ)
    (inputs : List ι) :
    machine.answers visible state (input :: inputs) =
      machine.reply state input ::
        machine.answers visible (machine.next state input) inputs := by
  simp [answers, event, seen]

variable {visible} in
theorem answers_cons_of_hidden {input : ι} (hidden : visible input = false) (state : σ)
    (inputs : List ι) :
    machine.answers visible state (input :: inputs) =
      machine.answers visible (machine.next state input) inputs := by
  simp [answers, event, hidden]

/-- Related states answer a visible input alike and stay related, and a hidden input on
one side keeps them related; for the inputs that are allowed. -/
structure Unwinds (allowed : ι → Prop) (agree : σ → σ → Prop) : Prop where
  answered : ∀ first second input, agree first second → allowed input →
    visible input = true → machine.reply first input = machine.reply second input
  kept : ∀ first second input, agree first second → allowed input → visible input = true →
    agree (machine.next first input) (machine.next second input)
  unmoved : ∀ first second input, agree first second → allowed input →
    visible input = false → agree (machine.next first input) second

variable {machine visible} {allowed : ι → Prop} {agree : σ → σ → Prop}

/-- Nothing visible changes when the hidden inputs are left out. -/
theorem Unwinds.purge (unwinds : machine.Unwinds visible allowed agree) {first second : σ}
    (related : agree first second) {inputs : List ι} (all : ∀ input ∈ inputs, allowed input) :
    machine.answers visible first inputs =
        machine.answers visible second (inputs.filter visible) ∧
      agree (machine.run first inputs) (machine.run second (inputs.filter visible)) := by
  induction inputs generalizing first second with
  | nil => exact ⟨rfl, related⟩
  | cons input inputs ih =>
      rw [List.forall_mem_cons] at all
      cases seen : visible input with
      | true =>
          rw [List.filter_cons_of_pos seen, machine.answers_cons_of_visible seen,
            machine.answers_cons_of_visible seen, run_cons, run_cons,
            unwinds.answered first second input related all.1 seen]
          have rest := ih (unwinds.kept first second input related all.1 seen) all.2
          exact ⟨congrArg (List.cons _) rest.1, rest.2⟩
      | false =>
          rw [List.filter_cons_of_neg (by simp [seen]), machine.answers_cons_of_hidden seen,
            run_cons]
          exact ih (unwinds.unmoved first second input related all.1 seen) all.2

end Machines.Machine
