import Mathlib.Logic.Basic

/-!
# Computations over a state that may fail or never end

A computation reads and writes a state; it returns, raises an error, or never ends.  What
was written before an error stays written, whether or not the error is handled.
-/

namespace Effects

/-- How a computation ends, with the state it leaves behind. -/
inductive Attempt (ε σ α : Type) where
  | returns (value : α) (state : σ)
  | raises (error : ε) (state : σ)
  | endless

def Effect (ε σ α : Type) : Type := σ → Attempt ε σ α

namespace Effect

variable {ε σ α β : Type}

protected def pure (value : α) : Effect ε σ α := fun state => .returns value state

protected def bind (first : Effect ε σ α) (next : α → Effect ε σ β) : Effect ε σ β :=
  fun state =>
    match first state with
    | .returns value state => next value state
    | .raises error state => .raises error state
    | .endless => .endless

instance : Monad (Effect ε σ) where
  pure := Effect.pure
  bind := Effect.bind

/-- A computation that touches no state. -/
def ofExcept : Except ε α → Effect ε σ α
  | .ok value => fun state => .returns value state
  | .error error => fun state => .raises error state

instance : MonadLift (Except ε) (Effect ε σ) := ⟨ofExcept⟩

/-- A computation that never ends. -/
def endless : Effect ε σ α := fun _ => .endless

def get : Effect ε σ σ := fun state => .returns state state

def modify (change : σ → σ) : Effect ε σ Unit := fun state => .returns () (change state)

/-- A write that may be refused; then the state stays as it is. -/
def update (change : σ → Except ε σ) : Effect ε σ Unit :=
  fun state =>
    match change state with
    | .ok after => .returns () after
    | .error error => .raises error state

/-- Run the handler on an error of the body, in the state that the body has left. -/
def handle (body : Effect ε σ α) (handler : ε → Effect ε σ α) : Effect ε σ α :=
  fun state =>
    match body state with
    | .raises error state => handler error state
    | other => other

@[simp] theorem pure_apply (value : α) (state : σ) :
    (pure value : Effect ε σ α) state = .returns value state := rfl

@[simp] theorem get_apply (state : σ) : (get : Effect ε σ σ) state = .returns state state := rfl

@[simp] theorem modify_apply (change : σ → σ) (state : σ) :
    (modify change : Effect ε σ Unit) state = .returns () (change state) := rfl

@[simp] theorem endless_apply (state : σ) :
    (endless : Effect ε σ α) state = .endless := rfl

@[simp] theorem ofExcept_ok (value : α) (state : σ) :
    (ofExcept (.ok value) : Effect ε σ α) state = .returns value state := rfl

@[simp] theorem ofExcept_error (error : ε) (state : σ) :
    (ofExcept (.error error) : Effect ε σ α) state = .raises error state := rfl

@[simp] theorem monadLift_eq (computed : Except ε α) :
    (monadLift computed : Effect ε σ α) = ofExcept computed := rfl

theorem bind_apply (first : Effect ε σ α) (next : α → Effect ε σ β) (state : σ) :
    (first >>= next) state =
      match first state with
      | .returns value state => next value state
      | .raises error state => .raises error state
      | .endless => .endless := rfl

section Rules

variable {state after : σ}

theorem update_of_ok {change : σ → Except ε σ} (accepted : change state = .ok after) :
    update change state = .returns () after := by
  rw [update, accepted]

theorem update_of_error {change : σ → Except ε σ} {error : ε}
    (refused : change state = .error error) :
    update change state = .raises error state := by
  rw [update, refused]

end Rules

end Effect

end Effects
