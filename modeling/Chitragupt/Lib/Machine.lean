import Mathlib.Data.List.Basic
import Mathlib.Logic.Function.Basic
import Mathlib.Tactic.TypeStar

/-!
# Labelled machines, their runs and stores of them

A machine consumes one input at a time and answers it.  This module gives the
runs and traces of such machines, the induction rules that carry a property from
one step to every run, and the store that keeps one machine state per key.

Guards express assumptions about the inputs of a run: a rule with a guard speaks
about the runs in which every step meets it.
-/

namespace Machines

/-- A deterministic machine: one input moves the state and produces an output. -/
structure Machine (σ ι ο : Type*) where
  step : σ → ι → σ × ο

/-- One step of a run, with the states around it. -/
structure Event (σ ι ο : Type*) where
  before : σ
  input : ι
  output : ο
  after : σ

namespace Machine

variable {σ ι ο α : Type*} (machine : Machine σ ι ο)

/-- The state after one input. -/
def next (state : σ) (input : ι) : σ := (machine.step state input).1

/-- The answer to one input. -/
def reply (state : σ) (input : ι) : ο := (machine.step state input).2

/-- The step taken from `state` on `input`, as an event. -/
def event (state : σ) (input : ι) : Event σ ι ο where
  before := state
  input := input
  output := machine.reply state input
  after := machine.next state input

/-- The state after a list of inputs. -/
def run (state : σ) : List ι → σ
  | [] => state
  | input :: inputs => run (machine.next state input) inputs

/-- The events of a list of inputs, in order. -/
def trace (state : σ) : List ι → List (Event σ ι ο)
  | [] => []
  | input :: inputs =>
      machine.event state input :: trace (machine.next state input) inputs

@[simp] theorem run_nil (state : σ) : machine.run state [] = state := rfl

@[simp] theorem run_cons (state : σ) (input : ι) (inputs : List ι) :
    machine.run state (input :: inputs) =
      machine.run (machine.next state input) inputs := rfl

@[simp] theorem trace_nil (state : σ) : machine.trace state [] = [] := rfl

@[simp] theorem trace_cons (state : σ) (input : ι) (inputs : List ι) :
    machine.trace state (input :: inputs) =
      machine.event state input :: machine.trace (machine.next state input) inputs := rfl

theorem run_append (state : σ) (earlier later : List ι) :
    machine.run state (earlier ++ later) =
      machine.run (machine.run state earlier) later := by
  induction earlier generalizing state with
  | nil => rfl
  | cons input inputs ih => exact ih (machine.next state input)

theorem trace_append (state : σ) (earlier later : List ι) :
    machine.trace state (earlier ++ later) =
      machine.trace state earlier ++
        machine.trace (machine.run state earlier) later := by
  induction earlier generalizing state with
  | nil => rfl
  | cons input inputs ih =>
      simp only [List.cons_append, trace_cons, run_cons]
      rw [ih (machine.next state input)]

/-- An event of a trace is the step taken after some prefix of the inputs. -/
theorem mem_trace {state : σ} {inputs : List ι} {happened : Event σ ι ο} :
    happened ∈ machine.trace state inputs ↔
      ∃ earlier input later, inputs = earlier ++ input :: later ∧
        happened = machine.event (machine.run state earlier) input := by
  constructor
  · intro member
    induction inputs generalizing state with
    | nil => simp at member
    | cons input inputs ih =>
        rw [trace_cons, List.mem_cons] at member
        rcases member with rfl | member
        · exact ⟨[], input, inputs, rfl, rfl⟩
        · rcases ih member with ⟨earlier, chosen, later, rfl, rfl⟩
          exact ⟨input :: earlier, chosen, later, rfl, rfl⟩
  · rintro ⟨earlier, input, later, rfl, rfl⟩
    rw [trace_append, trace_cons]
    exact List.mem_append_right _ List.mem_cons_self

/-! ## Guards and step-preserved properties -/

/-- Every step of the run meets the guard. -/
def Meets (guard : σ → ι → Prop) (state : σ) (inputs : List ι) : Prop :=
  ∀ happened ∈ machine.trace state inputs, guard happened.before happened.input

theorem meets_cons {guard : σ → ι → Prop} {state : σ} {input : ι} {inputs : List ι} :
    machine.Meets guard state (input :: inputs) ↔
      guard state input ∧ machine.Meets guard (machine.next state input) inputs := by
  simp only [Meets, trace_cons, List.forall_mem_cons]
  exact Iff.rfl

theorem meets_append {guard : σ → ι → Prop} {state : σ} {earlier later : List ι} :
    machine.Meets guard state (earlier ++ later) ↔
      machine.Meets guard state earlier ∧
        machine.Meets guard (machine.run state earlier) later := by
  simp only [Meets, trace_append, List.forall_mem_append]

/-- A run meets a guard about its inputs when every input does. -/
theorem meets_of_forall {guard : ι → Prop} {state : σ} {inputs : List ι}
    (all : ∀ input ∈ inputs, guard input) :
    machine.Meets (fun _ input => guard input) state inputs := by
  intro happened member
  rcases (machine.mem_trace).mp member with ⟨earlier, input, later, rfl, rfl⟩
  exact all input (List.mem_append_right _ List.mem_cons_self)

variable {machine} in
/-- A weaker guard is met by more runs. -/
theorem Meets.mono {guard weaker : σ → ι → Prop}
    (implies : ∀ state input, guard state input → weaker state input) {state : σ}
    {inputs : List ι} (meets : machine.Meets guard state inputs) :
    machine.Meets weaker state inputs :=
  fun happened member => implies _ _ (meets happened member)

/-- The property survives every guarded step. -/
def Stable (guard : σ → ι → Prop) (property : σ → Prop) : Prop :=
  ∀ state input, guard state input → property state → property (machine.next state input)

variable {machine} {guard : σ → ι → Prop} {property : σ → Prop}

/-- A stable property holds around every event of a guarded run. -/
theorem Stable.around (stable : machine.Stable guard property) {state : σ}
    {inputs : List ι} (meets : machine.Meets guard state inputs)
    (holds : property state) :
    ∀ happened ∈ machine.trace state inputs,
      property happened.before ∧ property happened.after := by
  induction inputs generalizing state with
  | nil => intro happened member; simp at member
  | cons input inputs ih =>
      rcases (meets_cons machine).mp meets with ⟨first, rest⟩
      have after := stable state input first holds
      intro happened member
      rw [trace_cons, List.mem_cons] at member
      rcases member with rfl | member
      · exact ⟨holds, after⟩
      · exact ih rest after happened member

/-- A stable property holds at the end of a guarded run. -/
theorem Stable.run (stable : machine.Stable guard property) {state : σ}
    {inputs : List ι} (meets : machine.Meets guard state inputs)
    (holds : property state) : property (machine.run state inputs) := by
  induction inputs generalizing state with
  | nil => exact holds
  | cons input inputs ih =>
      rcases (meets_cons machine).mp meets with ⟨first, rest⟩
      exact ih rest (stable state input first holds)

variable (machine) in
/-- No step changes what is observed. -/
def Fixes (observe : σ → α) : Prop :=
  ∀ state input, observe (machine.next state input) = observe state

theorem Fixes.run {observe : σ → α} (fixes : machine.Fixes observe) (state : σ)
    (inputs : List ι) : observe (machine.run state inputs) = observe state := by
  induction inputs generalizing state with
  | nil => rfl
  | cons input inputs ih => exact (ih _).trans (fixes state input)

variable (machine) in
/-- Invariants over the events so far: a property of trace and state that holds at
the start and is extended by every guarded step holds of every guarded run. -/
theorem history_run {history : List (Event σ ι ο) → σ → Prop} {state : σ}
    (start : history [] state)
    (extend : ∀ events current input, guard current input → history events current →
      history (events ++ [machine.event current input]) (machine.next current input))
    {inputs : List ι} (meets : machine.Meets guard state inputs) :
    history (machine.trace state inputs) (machine.run state inputs) := by
  -- The accumulator is the part of the trace already passed.
  have general : ∀ (inputs : List ι) (events : List (Event σ ι ο)) (current : σ),
      machine.Meets guard current inputs → history events current →
      history (events ++ machine.trace current inputs) (machine.run current inputs) := by
    intro inputs
    induction inputs with
    | nil =>
        intro events current _ holds
        simpa using holds
    | cons input inputs ih =>
        intro events current meets holds
        rcases (meets_cons machine).mp meets with ⟨first, rest⟩
        have extended := ih _ _ rest (extend events current input first holds)
        simpa [List.append_assoc] using extended
  simpa using general inputs [] state meets start

end Machine

/-! ## Stores of independent components -/

/-- A finite-map view of a store: the component kept under each key, if any. -/
abbrev Store (κ σ : Type*) := κ → Option σ

/-- What one request does to a store of components. -/
inductive Command (κ σ ι : Type*) where
  | create (key : κ) (state : σ)
  | send (key : κ) (input : ι)
  | skip

namespace Store

variable {κ σ ι ο : Type*} [DecidableEq κ]

/-- The empty store. -/
def empty : Store κ σ := fun _ => none

/-- Put a component under a key, replacing what was there. -/
def insert (store : Store κ σ) (key : κ) (state : σ) : Store κ σ :=
  Function.update store key (some state)

@[simp] theorem insert_self (store : Store κ σ) (key : κ) (state : σ) :
    store.insert key state key = some state := by
  simp [insert]

theorem insert_of_ne (store : Store κ σ) {key other : κ} (state : σ)
    (different : other ≠ key) : store.insert key state other = store other := by
  simp [insert, different]

/-- Putting back the component that is there changes nothing. -/
theorem insert_eq_self {store : Store κ σ} {key : κ} {state : σ}
    (present : store key = some state) : store.insert key state = store := by
  rw [insert, ← present, Function.update_eq_self]

/-- Carry out one command: at most the addressed component changes. -/
def perform (component : Machine σ ι ο) (store : Store κ σ) :
    Command κ σ ι → Store κ σ
  | .create key state => store.insert key state
  | .send key input =>
      match store key with
      | none => store
      | some state => store.insert key (component.next state input)
  | .skip => store

/-- Every component of the store has the property. -/
def All (property : σ → Prop) (store : Store κ σ) : Prop :=
  ∀ key state, store key = some state → property state

omit [DecidableEq κ] in
theorem all_empty (property : σ → Prop) : (empty : Store κ σ).All property := by
  intro key state present
  simp [empty] at present

theorem All.insert {property : σ → Prop} {store : Store κ σ} (all : store.All property)
    {key : κ} {state : σ} (holds : property state) :
    (store.insert key state).All property := by
  intro other found present
  by_cases same : other = key
  · subst same
    rw [insert_self] at present
    exact Option.some.inj present ▸ holds
  · rw [insert_of_ne store state same] at present
    exact all other found present

@[simp] theorem perform_create (component : Machine σ ι ο) (store : Store κ σ)
    (key : κ) (state : σ) :
    store.perform component (.create key state) = store.insert key state := rfl

@[simp] theorem perform_skip (component : Machine σ ι ο) (store : Store κ σ) :
    store.perform component .skip = store := rfl

theorem perform_send_none {component : Machine σ ι ο} {store : Store κ σ} {key : κ}
    {input : ι} (absent : store key = none) :
    store.perform component (.send key input) = store := by
  simp only [Store.perform, absent]

theorem perform_send_some {component : Machine σ ι ο} {store : Store κ σ} {key : κ}
    {input : ι} {state : σ} (present : store key = some state) :
    store.perform component (.send key input) =
      store.insert key (component.next state input) := by
  simp only [Store.perform, present]

/-- A property of fresh components that the component machine keeps is a property
of every component of the store. -/
theorem All.perform {component : Machine σ ι ο} {property : σ → Prop}
    {store : Store κ σ} (all : store.All property) {command : Command κ σ ι}
    (fresh : ∀ key state, command = .create key state → property state)
    (kept : ∀ key input state, command = .send key input → store key = some state →
      property state → property (component.next state input)) :
    (store.perform component command).All property := by
  cases command with
  | create key state => exact all.insert (fresh key state rfl)
  | skip => exact all
  | send key input =>
      cases present : store key with
      | none =>
          rw [perform_send_none present]
          exact all
      | some state =>
          rw [perform_send_some present]
          exact all.insert (kept key input state rfl present (all key state present))

/-- A command sent to one key leaves every other component alone. -/
theorem perform_send_of_ne (component : Machine σ ι ο) (store : Store κ σ)
    {key other : κ} (input : ι) (different : other ≠ key) :
    store.perform component (.send key input) other = store other := by
  cases present : store key with
  | none => rw [perform_send_none present]
  | some state => rw [perform_send_some present, insert_of_ne store _ different]

/-- The components after a command sent to one key. -/
theorem perform_send_apply (component : Machine σ ι ο) (store : Store κ σ) (key other : κ)
    (input : ι) :
    store.perform component (.send key input) other =
      if key = other then (store other).map (component.next · input) else store other := by
  by_cases same : key = other
  · subst same
    rw [if_pos rfl]
    cases present : store key with
    | none => rw [perform_send_none present, present, Option.map_none]
    | some state => rw [perform_send_some present, insert_self, Option.map_some]
  · rw [if_neg same]
    exact perform_send_of_ne component store input (Ne.symm same)

/-- A command does to a component what it does to the same one of another store. -/
theorem perform_congr (component : Machine σ ι ο) {store other : Store κ σ} {key : κ}
    (same : store key = other key) (command : Command κ σ ι) :
    store.perform component command key = other.perform component command key := by
  cases command with
  | create created state =>
      rw [perform_create, perform_create]
      by_cases here : key = created
      · subst here
        rw [insert_self, insert_self]
      · rw [insert_of_ne store state here, insert_of_ne other state here, same]
  | send addressed input => rw [perform_send_apply, perform_send_apply, same]
  | skip => exact same

/-- The key that a command is about. -/
def keyOf : Command κ σ ι → Option κ
  | .create key _ => some key
  | .send key _ => some key
  | .skip => none

/-- A command changes at most the component of its key. -/
theorem perform_of_keyOf_ne (component : Machine σ ι ο) (store : Store κ σ)
    {command : Command κ σ ι} {other : κ} (different : keyOf command ≠ some other) :
    store.perform component command other = store other := by
  cases command with
  | create key state =>
      rw [perform_create]
      exact insert_of_ne store state fun same => different (congrArg some same.symm)
  | send key input =>
      exact perform_send_of_ne component store input fun same =>
        different (congrArg some same.symm)
  | skip => rfl

/-- Where a component of the store comes from after a command: it was created, it
was there already, or it took a step. -/
theorem perform_eq_some {component : Machine σ ι ο} {store : Store κ σ}
    {command : Command κ σ ι} {key : κ} {after : σ}
    (present : store.perform component command key = some after) :
    command = .create key after ∨ store key = some after ∨
      ∃ input state, command = .send key input ∧ store key = some state ∧
        after = component.next state input := by
  cases command with
  | skip => exact .inr (.inl present)
  | create other state =>
      rw [perform_create] at present
      by_cases same : key = other
      · subst same
        rw [insert_self, Option.some.injEq] at present
        exact .inl (by rw [present])
      · rw [insert_of_ne store state same] at present
        exact .inr (.inl present)
  | send other input =>
      by_cases same : key = other
      · subst same
        cases found : store key with
        | none =>
            rw [perform_send_none found, found] at present
            cases present
        | some state =>
            rw [perform_send_some found, insert_self, Option.some.injEq] at present
            exact .inr (.inr ⟨input, state, rfl, rfl, present.symm⟩)
      · rw [perform_send_of_ne component store input same] at present
        exact .inr (.inl present)

end Store

end Machines
