import Mathlib.Data.List.Nodup
import Mathlib.Data.List.Basic
import Mathlib.Logic.Function.Basic
import Mathlib.Tactic.TypeStar

/-!
# Tasks under a readers-writer lock

Tasks share one value behind a readers-writer lock.  A critical section changes the
value step by step, and the steps of different tasks interleave as far as the lock
admits.  Every execution has the outcome of the tasks one after another, in the order
in which the lock was granted, and no execution gets stuck.
-/

namespace ReadWriteLock

variable {κ σ ο : Type*}

/-! ## Critical sections -/

/-- A critical section: one change of the shared value after the other, up to the
answer.  What comes next may depend on the value. -/
inductive Section (σ ο : Type*)
  | answer (reply : ο)
  | act (change : σ → σ) (next : σ → Section σ ο)

namespace Section

/-- The section in one go. -/
def perform : Section σ ο → σ → σ × ο
  | answer reply, value => (value, reply)
  | act change next, value => (next (change value)).perform (change value)

/-- No step changes the value. -/
def ReadOnly : Section σ ο → Prop
  | answer _ => True
  | act change next => ∀ value, change value = value ∧ (next value).ReadOnly

theorem ReadOnly.perform_fst {rest : Section σ ο} (readOnly : rest.ReadOnly) (value : σ) :
    (rest.perform value).1 = value := by
  induction rest generalizing value with
  | answer reply => rfl
  | act change next ih =>
      rcases readOnly value with ⟨same, tail⟩
      rw [perform, same]
      exact ih value tail value

end Section

/-- A task answers without the lock, reads under it or writes under it. -/
inductive Task (σ ο : Type*)
  | outside (reply : ο)
  | read (body : Section σ ο) (readOnly : body.ReadOnly)
  | write (body : Section σ ο)

namespace Task

/-- The task alone. -/
def perform : Task σ ο → σ → σ × ο
  | outside reply, value => (value, reply)
  | read body _, value => body.perform value
  | write body, value => body.perform value

/-- Whether the task never asks for the lock. -/
def isOutside : Task σ ο → Bool
  | outside _ => true
  | _ => false

end Task

/-! ## Executions -/

/-- Where a task stands.  A task that waits for the lock may be dropped. -/
inductive Phase (σ ο : Type*)
  | idle
  | waiting
  | inside (rest : Section σ ο)
  | answered (reply : ο)
  | dropped

/-- The answer that a task has given, or will give if the value stays. -/
def Phase.promised (value : σ) : Phase σ ο → Option ο
  | inside rest => some (rest.perform value).2
  | answered reply => some reply
  | _ => none

structure State (κ σ ο : Type*) where
  value : σ
  phase : κ → Phase σ ο
  readers : List κ
  writer : Option κ

namespace State

/-- Nothing has arrived, and the lock is free. -/
def initial (value : σ) : State κ σ ο where
  value
  phase _ := .idle
  readers := []
  writer := none

end State

/-- What a scheduler can let happen. -/
inductive Action (κ : Type*)
  | arrive (key : κ)
  | grant (key : κ)
  | advance (key : κ)
  | drop (key : κ)

/-! ## The order of a schedule -/

section Order

variable (task : κ → Task σ ο)

/-- The value after tasks one after another. -/
def serial (keys : List κ) (value : σ) : σ :=
  keys.foldl (fun value key => ((task key).perform value).1) value

theorem serial_append (keys others : List κ) (value : σ) :
    serial task (keys ++ others) value = serial task others (serial task keys value) :=
  List.foldl_append

theorem serial_concat (keys : List κ) (key : κ) (value : σ) :
    serial task (keys ++ [key]) value = ((task key).perform (serial task keys value)).1 :=
  serial_append task keys [key] value

/-- A task takes effect where it is granted the lock, or where it arrives if it does
not need the lock. -/
def Action.point : Action κ → Option κ
  | .arrive key => if (task key).isOutside then some key else none
  | .grant key => some key
  | .advance _ => none
  | .drop _ => none

/-- The order in which the tasks of a schedule take effect. -/
def order (actions : List (Action κ)) : List κ := actions.filterMap (Action.point task)

theorem order_append (earlier later : List (Action κ)) :
    order task (earlier ++ later) = order task earlier ++ order task later :=
  List.filterMap_append

/-- The task stands in the order, and its answer is the one that it gives behind the
tasks before it. -/
def Placed (start : σ) (keys : List κ) (key : κ) (reply : ο) : Prop :=
  ∃ before after, keys = before ++ key :: after ∧
    reply = ((task key).perform (serial task before start)).2

variable {task}

theorem Placed.append {start : σ} {keys : List κ} {key : κ} {reply : ο}
    (placed : Placed task start keys key reply) (others : List κ) :
    Placed task start (keys ++ others) key reply := by
  rcases placed with ⟨before, after, rfl, same⟩
  exact ⟨before, after ++ others, by simp, same⟩

theorem Placed.last {start : σ} {keys : List κ} {key : κ} {reply : ο}
    (same : reply = ((task key).perform (serial task keys start)).2) :
    Placed task start (keys ++ [key]) key reply :=
  ⟨keys, [], rfl, same⟩

theorem Placed.mem {start : σ} {keys : List κ} {key : κ} {reply : ο}
    (placed : Placed task start keys key reply) : key ∈ keys := by
  rcases placed with ⟨before, after, rfl, -⟩
  exact List.mem_append_right _ List.mem_cons_self

end Order

/-! ## The invariant -/

namespace State

/-- The value once the writer inside, if there is one, has finished. -/
def outcome (state : State κ σ ο) : σ :=
  match state.writer with
  | none => state.value
  | some key =>
      match state.phase key with
      | .inside rest => (rest.perform state.value).1
      | _ => state.value

theorem outcome_of_free {state : State κ σ ο} (free : state.writer = none) :
    state.outcome = state.value := by
  rw [outcome, free]

theorem outcome_of_inside {state : State κ σ ο} {key : κ} {rest : Section σ ο}
    (writes : state.writer = some key) (held : state.phase key = .inside rest) :
    state.outcome = (rest.perform state.value).1 := by
  rw [outcome, writes]
  simp only [held]

end State

/-- Whoever is inside holds the lock: readers who change nothing, or one writer alone. -/
structure Guarded (state : State κ σ ο) : Prop where
  holder : ∀ key rest, state.phase key = .inside rest →
    (key ∈ state.readers ∧ rest.ReadOnly) ∨ state.writer = some key
  reading : ∀ key ∈ state.readers, ∃ rest, state.phase key = .inside rest
  writing : ∀ key, state.writer = some key →
    state.readers = [] ∧ ∃ rest, state.phase key = .inside rest
  distinct : state.readers.Nodup

/-- What the tasks have done and will do is what they do in the order of the schedule. -/
structure Linear (task : κ → Task σ ο) (start : σ) (keys : List κ) (state : State κ σ ο) :
    Prop extends Guarded state where
  outcome : state.outcome = serial task keys start
  placed : ∀ key reply, (state.phase key).promised state.value = some reply →
    Placed task start keys key reply
  promised : ∀ key ∈ keys, ((state.phase key).promised state.value).isSome = true
  once : keys.Nodup
  patient : ∀ key, state.phase key = .waiting → (task key).isOutside = false

theorem linear_initial (task : κ → Task σ ο) (start : σ) :
    Linear task start [] (.initial start) where
  holder _ _ held := by cases held
  reading _ member := absurd member List.not_mem_nil
  writing _ writes := by cases writes
  distinct := List.nodup_nil
  outcome := rfl
  placed _ _ promised := by cases promised
  promised _ member := absurd member List.not_mem_nil
  once := List.nodup_nil
  patient _ waits := by cases waits

/-- Outside the lock a promise does not depend on the value. -/
theorem promised_eq_of_outside {phase : Phase σ ο} (outside : ∀ rest, phase ≠ .inside rest)
    (value other : σ) : phase.promised value = phase.promised other := by
  cases phase with
  | inside rest => exact absurd rfl (outside rest)
  | idle | waiting | dropped | answered _ => rfl

section Linear

variable {task : κ → Task σ ο} {state : State κ σ ο} {start : σ} {keys : List κ} {key : κ}

/-- A task without a promise does not stand in the order. -/
theorem Linear.not_mem (linear : Linear task start keys state)
    (silent : (state.phase key).promised state.value = none) : key ∉ keys := by
  intro member
  have promised := linear.promised key member
  rw [silent] at promised
  cases promised

theorem Linear.nodup_concat (linear : Linear task start keys state)
    (silent : (state.phase key).promised state.value = none) : (keys ++ [key]).Nodup := by
  rw [List.nodup_append]
  refine ⟨linear.once, List.nodup_singleton key, fun other member last present => ?_⟩
  rw [List.mem_singleton] at present
  rintro rfl
  exact linear.not_mem silent (present ▸ member)

/-- A task that has taken effect last. -/
theorem Linear.concat (linear : Linear task start keys state)
    (silent : (state.phase key).promised state.value = none) {next : State κ σ ο}
    (guarded : Guarded next) (outcome : next.outcome = serial task (keys ++ [key]) start)
    (value : next.value = state.value)
    (others : ∀ other, other ≠ key → next.phase other = state.phase other)
    (reply : (next.phase key).promised next.value =
      some ((task key).perform (serial task keys start)).2) :
    Linear task start (keys ++ [key]) next where
  toGuarded := guarded
  outcome := outcome
  placed other answer promised := by
    by_cases same : other = key
    · subst same
      rw [reply] at promised
      exact Placed.last (Option.some.inj promised).symm
    · rw [others other same, value] at promised
      exact (linear.placed other answer promised).append [key]
  promised other member := by
    by_cases same : other = key
    · rw [same, reply]
      rfl
    · rcases List.mem_append.mp member with earlier | last
      · rw [others other same, value]
        exact linear.promised other earlier
      · exact absurd (List.mem_singleton.mp last) same
  once := linear.nodup_concat silent
  patient other waits := by
    by_cases same : other = key
    · rw [same] at waits
      rw [waits] at reply
      cases reply
    · rw [others other same] at waits
      exact linear.patient other waits

/-- A task goes on without a change of its promise. -/
theorem Linear.keep (linear : Linear task start keys state) {next : State κ σ ο}
    (guarded : Guarded next) (outcome : next.outcome = state.outcome)
    (patient : ∀ key, next.phase key = .waiting → (task key).isOutside = false)
    (same : ∀ key, (next.phase key).promised next.value =
      (state.phase key).promised state.value) : Linear task start keys next where
  toGuarded := guarded
  outcome := outcome.trans linear.outcome
  placed key reply promised := linear.placed key reply (by rw [← same]; exact promised)
  promised key member := by
    rw [same]
    exact linear.promised key member
  once := linear.once
  patient := patient

/-- With a free lock nobody writes, and without readers nobody is inside. -/
theorem Guarded.not_inside (guarded : Guarded state) (free : state.writer = none)
    (alone : state.readers = []) : ∀ other rest, state.phase other ≠ .inside rest := by
  intro other rest held
  rcases guarded.holder other rest held with ⟨member, _⟩ | writes
  · rw [alone] at member
    cases member
  · rw [free] at writes
    cases writes

/-- A promise of someone else does not depend on the value that a writer works on. -/
theorem Guarded.promised_of_ne (guarded : Guarded state) (writes : state.writer = some key)
    {other : κ} (different : other ≠ key) (value : σ) :
    (state.phase other).promised value = (state.phase other).promised state.value := by
  refine promised_eq_of_outside (fun rest held => ?_) value state.value
  rcases guarded.holder other rest held with ⟨member, _⟩ | owns
  · rw [(guarded.writing key writes).1] at member
    cases member
  · exact different (Option.some.inj (owns.symm.trans writes))

/-- With nobody inside the lock is free. -/
theorem Guarded.free (guarded : Guarded state)
    (nobody : ∀ key rest, state.phase key ≠ .inside rest) :
    state.writer = none ∧ state.readers = [] := by
  constructor
  · cases writes : state.writer with
    | none => rfl
    | some key =>
        rcases guarded.writing key writes with ⟨_, rest, held⟩
        exact absurd held (nobody key rest)
  · refine List.eq_nil_iff_forall_not_mem.mpr fun key member => ?_
    rcases guarded.reading key member with ⟨rest, held⟩
    exact nobody key rest held

end Linear

/-! ## Steps -/

section Actions

variable [DecidableEq κ]

namespace State

variable (state : State κ σ ο) (key : κ)

def move (phase : Phase σ ο) : State κ σ ο :=
  { state with phase := Function.update state.phase key phase }

/-- A reader comes in. -/
def share (body : Section σ ο) : State κ σ ο where
  value := state.value
  phase := Function.update state.phase key (.inside body)
  readers := key :: state.readers
  writer := state.writer

/-- The writer comes in. -/
def own (body : Section σ ο) : State κ σ ο where
  value := state.value
  phase := Function.update state.phase key (.inside body)
  readers := state.readers
  writer := some key

/-- Whoever is inside takes a step. -/
def proceed (value : σ) (rest : Section σ ο) : State κ σ ο where
  value := value
  phase := Function.update state.phase key (.inside rest)
  readers := state.readers
  writer := state.writer

/-- Whoever is inside answers and lets go of the lock. -/
def release (reply : ο) : State κ σ ο where
  value := state.value
  phase := Function.update state.phase key (.answered reply)
  readers := state.readers.erase key
  writer := if state.writer = some key then none else state.writer

@[simp] theorem move_phase (phase : Phase σ ο) :
    (state.move key phase).phase = Function.update state.phase key phase := rfl

@[simp] theorem share_phase (body : Section σ ο) :
    (state.share key body).phase = Function.update state.phase key (.inside body) := rfl

@[simp] theorem own_phase (body : Section σ ο) :
    (state.own key body).phase = Function.update state.phase key (.inside body) := rfl

@[simp] theorem proceed_phase (value : σ) (rest : Section σ ο) :
    (state.proceed key value rest).phase =
      Function.update state.phase key (.inside rest) := rfl

@[simp] theorem release_phase (reply : ο) :
    (state.release key reply).phase = Function.update state.phase key (.answered reply) := rfl

end State

variable (task : κ → Task σ ο)

/-- One action, if the lock and the phase of the task admit it. -/
def step (state : State κ σ ο) : Action κ → Option (State κ σ ο)
  | .arrive key =>
      match state.phase key, task key with
      | .idle, .outside reply => some (state.move key (.answered reply))
      | .idle, _ => some (state.move key .waiting)
      | _, _ => none
  | .grant key =>
      match state.phase key, task key with
      | .waiting, .read body _ =>
          if state.writer = none then some (state.share key body) else none
      | .waiting, .write body =>
          if state.writer = none ∧ state.readers = [] then some (state.own key body) else none
      | _, _ => none
  | .advance key =>
      match state.phase key with
      | .inside (.act change next) =>
          some (state.proceed key (change state.value) (next (change state.value)))
      | .inside (.answer reply) => some (state.release key reply)
      | _ => none
  | .drop key =>
      match state.phase key with
      | .waiting => some (state.move key .dropped)
      | _ => none

/-- A schedule, if every action of it is admitted. -/
def run (state : State κ σ ο) : List (Action κ) → Option (State κ σ ο)
  | [] => some state
  | action :: actions => (step task state action).bind fun next => run next actions

theorem run_append (state : State κ σ ο) (earlier later : List (Action κ)) :
    run task state (earlier ++ later) =
      (run task state earlier).bind fun middle => run task middle later := by
  induction earlier generalizing state with
  | nil => rfl
  | cons action actions ih =>
      rw [List.cons_append, run, run]
      cases step task state action with
      | none => rfl
      | some next => exact ih next

/-! ### What an action does -/

variable {task} {state next : State κ σ ο}

theorem step_arrive {key : κ} (stepped : step task state (.arrive key) = some next) :
    state.phase key = .idle ∧
      ((∃ reply, task key = .outside reply ∧ next = state.move key (.answered reply)) ∨
        (task key).isOutside = false ∧ next = state.move key .waiting) := by
  simp only [step] at stepped
  split at stepped
  next reply arrived sort =>
    exact ⟨arrived, .inl ⟨reply, sort, (Option.some.inj stepped).symm⟩⟩
  next arrived other =>
    refine ⟨arrived, .inr ⟨?_, (Option.some.inj stepped).symm⟩⟩
    cases sort : task key with
    | outside reply => exact absurd sort (other reply)
    | read body readOnly => rfl
    | write body => rfl
  next => cases stepped

theorem step_grant {key : κ} (stepped : step task state (.grant key) = some next) :
    state.phase key = .waiting ∧ state.writer = none ∧
      ((∃ body readOnly, task key = .read body readOnly ∧
          next = state.share key body) ∨
        ∃ body, task key = .write body ∧ state.readers = [] ∧ next = state.own key body) := by
  simp only [step] at stepped
  split at stepped
  next body readOnly waited sort =>
    split at stepped
    next free =>
      exact ⟨waited, free, .inl ⟨body, readOnly, sort, (Option.some.inj stepped).symm⟩⟩
    next => cases stepped
  next body waited sort =>
    split at stepped
    next free =>
      exact ⟨waited, free.1, .inr ⟨body, sort, free.2, (Option.some.inj stepped).symm⟩⟩
    next => cases stepped
  next => cases stepped

theorem step_advance {key : κ} (stepped : step task state (.advance key) = some next) :
    (∃ change behind, state.phase key = .inside (.act change behind) ∧
        next = state.proceed key (change state.value) (behind (change state.value))) ∨
      ∃ reply, state.phase key = .inside (.answer reply) ∧
        next = state.release key reply := by
  simp only [step] at stepped
  split at stepped
  next change behind held =>
    exact .inl ⟨change, behind, held, (Option.some.inj stepped).symm⟩
  next reply held => exact .inr ⟨reply, held, (Option.some.inj stepped).symm⟩
  next => cases stepped

theorem step_drop {key : κ} (stepped : step task state (.drop key) = some next) :
    state.phase key = .waiting ∧ next = state.move key .dropped := by
  simp only [step] at stepped
  split at stepped
  next waited => exact ⟨waited, (Option.some.inj stepped).symm⟩
  next => cases stepped

/-! ## Every action keeps the invariant -/

section Steps

variable {start : σ} {keys : List κ} {key : κ}

/-- Away from the lock nothing changes for those inside. -/
theorem Guarded.move (guarded : Guarded state) (phase : Phase σ ο)
    (before : ∀ rest, state.phase key ≠ .inside rest) (after : ∀ rest, phase ≠ .inside rest) :
    Guarded (state.move key phase) ∧ (state.move key phase).outcome = state.outcome := by
  have kept : ∀ other rest, state.phase other = .inside rest →
      (state.move key phase).phase other = .inside rest := by
    intro other rest held
    have different : other ≠ key := by
      rintro rfl
      exact before rest held
    rw [State.move_phase, Function.update_of_ne different, held]
  refine ⟨⟨fun other rest held => ?_, fun other member => ?_, fun other writes => ?_,
    guarded.distinct⟩, ?_⟩
  · by_cases same : other = key
    · subst same
      rw [State.move_phase, Function.update_self] at held
      exact absurd held (after rest)
    · rw [State.move_phase, Function.update_of_ne same] at held
      exact guarded.holder other rest held
  · rcases guarded.reading other member with ⟨rest, held⟩
    exact ⟨rest, kept other rest held⟩
  · rcases guarded.writing other writes with ⟨alone, rest, held⟩
    exact ⟨alone, rest, kept other rest held⟩
  · cases writes : state.writer with
    | none =>
        have free : (state.move key phase).writer = none := writes
        rw [State.outcome_of_free free, State.outcome_of_free writes]
        rfl
    | some other =>
        rcases guarded.writing other writes with ⟨_, rest, held⟩
        have same : (state.move key phase).writer = some other := writes
        rw [State.outcome_of_inside writes held,
          State.outcome_of_inside same (kept other rest held)]
        rfl

theorem Linear.patient_update (linear : Linear task start keys state) {phase : Phase σ ο}
    (busy : phase ≠ .waiting) : ∀ other, Function.update state.phase key phase other = .waiting →
      (task other).isOutside = false := by
  intro other waits
  by_cases same : other = key
  · rw [same, Function.update_self] at waits
    exact absurd waits busy
  · rw [Function.update_of_ne same] at waits
    exact linear.patient other waits

theorem Linear.arrive (linear : Linear task start keys state)
    (stepped : step task state (.arrive key) = some next) :
    Linear task start (keys ++ ((Action.arrive key).point task).toList) next := by
  rcases step_arrive stepped with ⟨arrived, ⟨reply, sort, rfl⟩ | ⟨waits, rfl⟩⟩
  · have before : ∀ rest, state.phase key ≠ .inside rest := by simp [arrived]
    have moved := linear.toGuarded.move (.answered reply) before (by simp)
    have silent : (state.phase key).promised state.value = none := by rw [arrived]; rfl
    have point : (Action.arrive key).point task = some key := by
      rw [Action.point, sort]
      rfl
    rw [point]
    refine linear.concat silent moved.1 ?_ rfl
      (fun other different => Function.update_of_ne different _ _) ?_
    · rw [moved.2, linear.outcome, serial_concat, sort]
      rfl
    · rw [State.move_phase, Function.update_self, sort]
      rfl
  · have before : ∀ rest, state.phase key ≠ .inside rest := by simp [arrived]
    have moved := linear.toGuarded.move .waiting before (by simp)
    have point : (Action.arrive key).point task = none := by
      rw [Action.point, waits]
      rfl
    rw [point, Option.toList_none, List.append_nil]
    refine linear.keep moved.1 moved.2 (fun other waiting => ?_) fun other => ?_
    · by_cases same : other = key
      · exact same ▸ waits
      · rw [State.move_phase, Function.update_of_ne same] at waiting
        exact linear.patient other waiting
    by_cases same : other = key
    · rw [same, State.move_phase, Function.update_self, arrived]
      rfl
    · rw [State.move_phase, Function.update_of_ne same]
      rfl

theorem Linear.drop (linear : Linear task start keys state)
    (stepped : step task state (.drop key) = some next) : Linear task start keys next := by
  rcases step_drop stepped with ⟨waited, rfl⟩
  have before : ∀ rest, state.phase key ≠ .inside rest := by simp [waited]
  have moved := linear.toGuarded.move .dropped before (by simp)
  refine linear.keep moved.1 moved.2 (linear.patient_update (by simp)) fun other => ?_
  by_cases same : other = key
  · rw [same, State.move_phase, Function.update_self, waited]
    rfl
  · rw [State.move_phase, Function.update_of_ne same]
    rfl

theorem Guarded.share (guarded : Guarded state) (free : state.writer = none)
    (outside : ∀ rest, state.phase key ≠ .inside rest) {body : Section σ ο}
    (readOnly : body.ReadOnly) : Guarded (state.share key body) where
  holder other rest held := by
    by_cases same : other = key
    · subst same
      rw [State.share_phase, Function.update_self] at held
      rw [← Phase.inside.inj held]
      exact .inl ⟨List.mem_cons_self, readOnly⟩
    · rw [State.share_phase, Function.update_of_ne same] at held
      rcases guarded.holder other rest held with ⟨member, quiet⟩ | writes
      · exact .inl ⟨List.mem_cons_of_mem _ member, quiet⟩
      · exact .inr writes
  reading other member := by
    by_cases same : other = key
    · exact ⟨body, by rw [same, State.share_phase, Function.update_self]⟩
    · rcases guarded.reading other ((List.mem_cons.mp member).resolve_left same) with
        ⟨rest, held⟩
      exact ⟨rest, by rw [State.share_phase, Function.update_of_ne same, held]⟩
  writing other writes := by
    have none_ : state.writer = some other := writes
    rw [free] at none_
    cases none_
  distinct := by
    refine List.nodup_cons.mpr ⟨fun member => ?_, guarded.distinct⟩
    rcases guarded.reading key member with ⟨rest, held⟩
    exact outside rest held

theorem Guarded.own (guarded : Guarded state) (free : state.writer = none)
    (alone : state.readers = []) (body : Section σ ο) : Guarded (state.own key body) where
  holder other rest held := by
    by_cases same : other = key
    · exact .inr (congrArg some same.symm)
    · rw [State.own_phase, Function.update_of_ne same] at held
      exact absurd held (guarded.not_inside free alone other rest)
  reading other member := by
    have none_ : other ∈ state.readers := member
    rw [alone] at none_
    cases none_
  writing other writes := by
    rcases Option.some.inj writes with rfl
    exact ⟨alone, body, by rw [State.own_phase, Function.update_self]⟩
  distinct := guarded.distinct

theorem Linear.grant (linear : Linear task start keys state)
    (stepped : step task state (.grant key) = some next) :
    Linear task start (keys ++ ((Action.grant key).point task).toList) next := by
  rcases step_grant stepped with
    ⟨waited, free, ⟨body, readOnly, sort, rfl⟩ | ⟨body, sort, alone, rfl⟩⟩
  · have settled := linear.outcome
    have silent : (state.phase key).promised state.value = none := by rw [waited]; rfl
    have outside : ∀ rest, state.phase key ≠ .inside rest := by simp [waited]
    have still : (state.share key body).writer = none := free
    rw [State.outcome_of_free free] at settled
    refine linear.concat silent (linear.toGuarded.share free outside readOnly) ?_ rfl
      (fun other different => Function.update_of_ne different _ _) ?_
    · rw [State.outcome_of_free still, serial_concat, sort, ← settled]
      exact (readOnly.perform_fst state.value).symm
    · rw [State.share_phase, Function.update_self, sort, ← settled]
      rfl
  · have settled := linear.outcome
    have silent : (state.phase key).promised state.value = none := by rw [waited]; rfl
    have held : (state.own key body).phase key = .inside body := Function.update_self _ _ _
    rw [State.outcome_of_free free] at settled
    refine linear.concat silent (linear.toGuarded.own free alone body) ?_ rfl
      (fun other different => Function.update_of_ne different _ _) ?_
    · rw [State.outcome_of_inside rfl held, serial_concat, sort, ← settled]
      rfl
    · rw [held, sort, ← settled]
      rfl

/-- A step inside leaves the holders of the lock as they are. -/
theorem Guarded.proceed (guarded : Guarded state) (value : σ) {rest behind : Section σ ο}
    (held : state.phase key = .inside rest) (quiet : rest.ReadOnly → behind.ReadOnly) :
    Guarded (state.proceed key value behind) where
  holder other remaining inside := by
    by_cases same : other = key
    · subst same
      rw [State.proceed_phase, Function.update_self] at inside
      rw [← Phase.inside.inj inside]
      exact (guarded.holder other rest held).imp_left fun reader => ⟨reader.1, quiet reader.2⟩
    · rw [State.proceed_phase, Function.update_of_ne same] at inside
      exact guarded.holder other remaining inside
  reading other member := by
    by_cases same : other = key
    · exact ⟨behind, by rw [same, State.proceed_phase, Function.update_self]⟩
    · rcases guarded.reading other member with ⟨remaining, inside⟩
      exact ⟨remaining, by rw [State.proceed_phase, Function.update_of_ne same, inside]⟩
  writing other writes := by
    rcases guarded.writing other writes with ⟨alone, remaining, inside⟩
    refine ⟨alone, ?_⟩
    by_cases same : other = key
    · exact ⟨behind, by rw [same, State.proceed_phase, Function.update_self]⟩
    · exact ⟨remaining, by rw [State.proceed_phase, Function.update_of_ne same, inside]⟩
  distinct := guarded.distinct

theorem Guarded.release (guarded : Guarded state) {rest : Section σ ο}
    (held : state.phase key = .inside rest) (reply : ο) :
    Guarded (state.release key reply) where
  holder other remaining inside := by
    have different : other ≠ key := by
      rintro rfl
      rw [State.release_phase, Function.update_self] at inside
      cases inside
    rw [State.release_phase, Function.update_of_ne different] at inside
    rcases guarded.holder other remaining inside with ⟨member, quiet⟩ | writes
    · exact .inl ⟨(List.mem_erase_of_ne different).mpr member, quiet⟩
    · refine .inr ?_
      have others : ¬state.writer = some key := by
        rw [writes]
        exact fun same => different (Option.some.inj same)
      exact (if_neg others).trans writes
  reading other member := by
    have present : other ≠ key ∧ other ∈ state.readers :=
      guarded.distinct.mem_erase_iff.mp member
    rcases guarded.reading other present.2 with ⟨remaining, inside⟩
    exact ⟨remaining, by rw [State.release_phase, Function.update_of_ne present.1, inside]⟩
  writing other writes := by
    have owner : state.writer = some other ∧ other ≠ key := by
      change (if state.writer = some key then none else state.writer) = some other at writes
      split at writes
      next => cases writes
      next others =>
        refine ⟨writes, ?_⟩
        rintro rfl
        exact others writes
    rcases guarded.writing other owner.1 with ⟨alone, remaining, inside⟩
    refine ⟨?_, remaining, by rw [State.release_phase, Function.update_of_ne owner.2, inside]⟩
    change state.readers.erase key = []
    rw [alone]
    rfl
  distinct := guarded.distinct.erase key

theorem Linear.advance (linear : Linear task start keys state)
    (stepped : step task state (.advance key) = some next) :
    Linear task start keys next := by
  rcases step_advance stepped with ⟨change, behind, held, rfl⟩ | ⟨reply, held, rfl⟩
  · have quiet : (Section.act change behind).ReadOnly →
        (behind (change state.value)).ReadOnly := by
      intro readOnly
      rw [(readOnly state.value).1]
      exact (readOnly state.value).2
    have guarded := linear.toGuarded.proceed (change state.value) held quiet
    have inside : (state.proceed key (change state.value)
        (behind (change state.value))).phase key = .inside (behind (change state.value)) :=
      Function.update_self _ _ _
    rcases linear.holder key _ held with ⟨member, readOnly⟩ | writes
    · -- A reader leaves the value as it is.
      have same : change state.value = state.value := (readOnly state.value).1
      have free : state.writer = none := by
        cases writes : state.writer with
        | none => rfl
        | some other =>
            rw [(linear.writing other writes).1] at member
            cases member
      refine linear.keep guarded ?_ (linear.patient_update (by simp)) fun other => ?_
      · have still : (state.proceed key (change state.value)
            (behind (change state.value))).writer = none := free
        rw [State.outcome_of_free still, State.outcome_of_free free]
        exact same
      · by_cases own : other = key
        · rw [own, inside, held]
          rfl
        · rw [State.proceed_phase, Function.update_of_ne own]
          exact congrArg (fun value => (state.phase other).promised value) same
    · refine linear.keep guarded ?_ (linear.patient_update (by simp)) fun other => ?_
      · have still : (state.proceed key (change state.value)
            (behind (change state.value))).writer = some key := writes
        rw [State.outcome_of_inside still inside, State.outcome_of_inside writes held]
        rfl
      · by_cases own : other = key
        · rw [own, inside, held]
          rfl
        · rw [State.proceed_phase, Function.update_of_ne own]
          exact linear.toGuarded.promised_of_ne writes own _
  · refine linear.keep (linear.toGuarded.release held reply) ?_
      (linear.patient_update (by simp)) fun other => ?_
    · cases writes : state.writer with
      | none =>
          have still : (state.release key reply).writer = none := by
            change (if state.writer = some key then none else state.writer) = none
            rw [writes]
            rfl
          rw [State.outcome_of_free still, State.outcome_of_free writes]
          rfl
      | some owner =>
          by_cases own : owner = key
          · have free : (state.release key reply).writer = none := by
              change (if state.writer = some key then none else state.writer) = none
              rw [writes, own, if_pos rfl]
            rw [State.outcome_of_free free, State.outcome_of_inside (own ▸ writes) held]
            rfl
          · -- Nobody but the writer is inside.
            rcases linear.holder key _ held with ⟨member, _⟩ | other
            · rw [(linear.writing owner writes).1] at member
              cases member
            · exact absurd (Option.some.inj (writes.symm.trans other)) own
    · by_cases own : other = key
      · rw [own, State.release_phase, Function.update_self, held]
        rfl
      · rw [State.release_phase, Function.update_of_ne own]
        rfl

end Steps

/-! ## Linearizability -/

section Runs

variable {start : σ} {keys : List κ} {actions : List (Action κ)}

/-- One action keeps the invariant. -/
theorem Linear.take (linear : Linear task start keys state) {action : Action κ}
    (stepped : step task state action = some next) :
    Linear task start (keys ++ (action.point task).toList) next := by
  cases action with
  | arrive key => exact linear.arrive stepped
  | grant key => exact linear.grant stepped
  | advance key =>
      rw [Action.point, Option.toList_none, List.append_nil]
      exact linear.advance stepped
  | drop key =>
      rw [Action.point, Option.toList_none, List.append_nil]
      exact linear.drop stepped

/-- So does a schedule. -/
theorem Linear.follow (linear : Linear task start keys state)
    (ran : run task state actions = some next) :
    Linear task start (keys ++ order task actions) next := by
  induction actions generalizing state keys with
  | nil =>
      rw [order, List.filterMap_nil, List.append_nil]
      exact Option.some.inj ran ▸ linear
  | cons action actions ih =>
      rcases Option.bind_eq_some_iff.mp ran with ⟨middle, stepped, rest⟩
      have tail := ih (linear.take stepped) rest
      have spelled : order task (action :: actions) =
          (action.point task).toList ++ order task actions := by
        rw [order, List.filterMap_cons]
        cases action.point task <;> rfl
      rw [spelled, ← List.append_assoc]
      exact tail

theorem linear_run (ran : run task (.initial start) actions = some next) :
    Linear task start (order task actions) next := by
  have linear := (linear_initial task start).follow ran
  rwa [List.nil_append] at linear

/-- Whenever nobody writes, the value is that of the tasks one after another. -/
theorem value_of_run (ran : run task (.initial start) actions = some next)
    (free : next.writer = none) : next.value = serial task (order task actions) start := by
  rw [← (linear_run ran).outcome, State.outcome_of_free free]

/-- Every answer is the one that the task gives behind those before it. -/
theorem reply_of_run (ran : run task (.initial start) actions = some next) {key : κ} {reply : ο}
    (answered : next.phase key = .answered reply) :
    Placed task start (order task actions) key reply :=
  (linear_run ran).placed key reply (by rw [answered]; rfl)

/-- The order respects time: what was answered before something else arrived stands
before it. -/
theorem before_of_run {earlier later : List (Action κ)} {middle : State κ σ ο}
    (ran : run task (.initial start) earlier = some middle) {key other : κ} {reply : ο}
    (answered : middle.phase key = .answered reply) (absent : middle.phase other = .idle)
    (effective : other ∈ order task (earlier ++ later)) :
    ∃ before between after,
      order task (earlier ++ later) = before ++ key :: between ++ other :: after := by
  have linear := linear_run ran
  have silent : (middle.phase other).promised middle.value = none := by rw [absent]; rfl
  have early := (reply_of_run ran answered).mem
  rw [order_append] at effective ⊢
  have late := (List.mem_append.mp effective).resolve_left (linear.not_mem silent)
  rcases List.append_of_mem early with ⟨before, between, first⟩
  rcases List.append_of_mem late with ⟨gap, after, second⟩
  refine ⟨before, between ++ gap, after, ?_⟩
  rw [first, second]
  simp

/-- The task of an arrival. -/
def Action.arrived : Action κ → Option κ
  | .arrive key => some key
  | .grant _ => none
  | .advance _ => none
  | .drop _ => none

/-- Only arrivals bring tasks into play. -/
theorem arrived_of_step {action : Action κ} (stepped : step task state action = some next)
    {key : κ} (active : next.phase key ≠ .idle) :
    state.phase key ≠ .idle ∨ action.arrived = some key := by
  have moved : ∀ {other : κ} {phase : Phase σ ο},
      next.phase = Function.update state.phase other phase → state.phase other ≠ .idle →
        state.phase key ≠ .idle := by
    intro other phase updated busy
    by_cases same : key = other
    · exact same ▸ busy
    · rwa [updated, Function.update_of_ne same] at active
  cases action with
  | arrive other =>
      by_cases same : key = other
      · exact .inr (congrArg some same.symm)
      · left
        rcases step_arrive stepped with ⟨_, ⟨reply, _, rfl⟩ | ⟨_, rfl⟩⟩ <;>
          rwa [State.move_phase, Function.update_of_ne same] at active
  | grant other =>
      left
      rcases step_grant stepped with ⟨waited, _, ⟨body, _, _, rfl⟩ | ⟨body, _, _, rfl⟩⟩
      · exact moved (state.share_phase other body) (by simp [waited])
      · exact moved (state.own_phase other body) (by simp [waited])
  | advance other =>
      left
      rcases step_advance stepped with ⟨change, behind, held, rfl⟩ | ⟨reply, held, rfl⟩
      · exact moved (state.proceed_phase other _ _) (by simp [held])
      · exact moved (state.release_phase other reply) (by simp [held])
  | drop other =>
      left
      rcases step_drop stepped with ⟨waited, rfl⟩
      exact moved (state.move_phase other .dropped) (by simp [waited])

theorem arrived_of_run (ran : run task state actions = some next) {key : κ}
    (active : next.phase key ≠ .idle) :
    state.phase key ≠ .idle ∨ key ∈ actions.filterMap Action.arrived := by
  induction actions generalizing state with
  | nil =>
      rcases Option.some.inj ran with rfl
      exact .inl active
  | cons action actions ih =>
      rcases Option.bind_eq_some_iff.mp ran with ⟨middle, stepped, rest⟩
      rw [List.filterMap_cons]
      rcases ih rest with busy | later
      · rcases arrived_of_step stepped busy with earlier | now
        · exact .inl earlier
        · right
          rw [now]
          exact List.mem_cons_self
      · right
        cases action.arrived with
        | none => exact later
        | some other => exact List.mem_cons_of_mem _ later

end Runs

/-! ## Completion -/

section Completion

/-- The scheduler lets a task go on, without new tasks and without dropping any. -/
def Action.isProgress : Action κ → Bool
  | .grant _ => true
  | .advance _ => true
  | .arrive _ => false
  | .drop _ => false

/-- Whoever is inside can finish alone. -/
theorem exists_release (task : κ → Task σ ο) {rest : Section σ ο}
    (held : state.phase key = .inside rest) :
    ∃ count value reply, run task state (List.replicate count (.advance key)) =
      some (State.release { state with value } key reply) := by
  induction rest generalizing state with
  | answer reply =>
      refine ⟨1, state.value, reply, ?_⟩
      have stepped : step task state (.advance key) = some (state.release key reply) := by
        simp only [step, held]
      rw [List.replicate_one, run, stepped]
      rfl
  | act change behind ih =>
      let next := state.proceed key (change state.value) (behind (change state.value))
      have stepped : step task state (.advance key) = some next := by
        simp only [step, held, next]
      have inside : next.phase key = .inside (behind (change state.value)) :=
        Function.update_self _ _ _
      rcases ih (change state.value) inside with ⟨count, value, reply, ran⟩
      refine ⟨count + 1, value, reply, ?_⟩
      rw [List.replicate_succ, run, stepped, Option.bind_some, ran]
      simp only [State.release, next, State.proceed, Function.update_idem]

/-- Whoever waits or is inside. -/
def Phase.isPending : Phase σ ο → Bool
  | waiting => true
  | inside _ => true
  | _ => false

/-- A free lock is granted to whoever waits. -/
theorem Linear.exists_grant (linear : Linear task start keys state)
    (nobody : ∀ key rest, state.phase key ≠ .inside rest)
    (waits : state.phase key = .waiting) :
    ∃ body next, step task state (.grant key) = some next ∧
      next.phase = Function.update state.phase key (.inside body) := by
  rcases linear.toGuarded.free nobody with ⟨free, alone⟩
  have needs := linear.patient key waits
  cases sort : task key with
  | outside reply =>
      rw [sort] at needs
      cases needs
  | read body readOnly =>
      refine ⟨body, state.share key body, ?_, rfl⟩
      simp only [step, waits, sort, free, if_true]
  | write body =>
      refine ⟨body, state.own key body, ?_, rfl⟩
      simp only [step, waits, sort, free, alone, and_self, if_true]

/-- Whoever is next can be answered, and everybody else stays where they are. -/
theorem Linear.exists_answer (linear : Linear task start keys state)
    (next : (∃ rest, state.phase key = .inside rest) ∨
      state.phase key = .waiting ∧ ∀ other rest, state.phase other ≠ .inside rest) :
    ∃ more after reply, (∀ action ∈ more, Action.isProgress action = true) ∧
      run task state more = some after ∧
      after.phase = Function.update state.phase key (.answered reply) := by
  have progress : ∀ count, ∀ action ∈ List.replicate count (Action.advance key),
      action.isProgress = true := by
    intro count action member
    rw [List.eq_of_mem_replicate member]
    rfl
  rcases next with ⟨rest, held⟩ | ⟨waits, nobody⟩
  · rcases exists_release task held with ⟨count, value, reply, ran⟩
    exact ⟨_, _, reply, progress count, ran, rfl⟩
  · rcases linear.exists_grant nobody waits with ⟨body, middle, granted, phases⟩
    have held : middle.phase key = .inside body := by rw [phases, Function.update_self]
    rcases exists_release task held with ⟨count, value, reply, ran⟩
    refine ⟨.grant key :: List.replicate count (.advance key),
      State.release { middle with value } key reply, reply, ?_, ?_, ?_⟩
    · exact List.forall_mem_cons.mpr ⟨rfl, progress count⟩
    · rw [run, granted]
      exact ran
    · rw [State.release_phase]
      change Function.update middle.phase key _ = _
      rw [phases, Function.update_idem]

/-- No schedule gets stuck: whoever waits or is inside can be answered, by letting one of
them go on after the other. -/
theorem Linear.exists_completion (linear : Linear task start keys state) (arrived : List κ)
    (listed : ∀ key, (state.phase key).isPending = true → key ∈ arrived) :
    ∃ more after, (∀ action ∈ more, Action.isProgress action = true) ∧
      run task state more = some after ∧
      ∀ key, if (state.phase key).isPending then ∃ reply, after.phase key = .answered reply
        else after.phase key = state.phase key := by
  induction many : arrived.length generalizing state keys arrived with
  | zero =>
      refine ⟨[], state, fun _ member => absurd member List.not_mem_nil, rfl, fun key => ?_⟩
      have none_ : (state.phase key).isPending = false := by
        rw [← Bool.not_eq_true]
        intro pending
        have member := listed key pending
        rw [List.length_eq_zero_iff.mp many] at member
        cases member
      rw [none_]
      rfl
  | succ count ih =>
      by_cases some_ : ∃ key, (state.phase key).isPending = true
      · -- Whoever is inside goes first.
        have chosen : ∃ key, (state.phase key).isPending = true ∧
            ((∃ rest, state.phase key = .inside rest) ∨
              state.phase key = .waiting ∧ ∀ other rest, state.phase other ≠ .inside rest) := by
          by_cases busy : ∃ key rest, state.phase key = .inside rest
          · rcases busy with ⟨key, rest, held⟩
            exact ⟨key, by rw [held]; rfl, .inl ⟨rest, held⟩⟩
          · rcases some_ with ⟨key, pending⟩
            have nobody : ∀ other rest, state.phase other ≠ .inside rest :=
              fun other rest held => busy ⟨other, rest, held⟩
            refine ⟨key, pending, .inr ⟨?_, nobody⟩⟩
            cases stands : state.phase key with
            | waiting => rfl
            | inside rest => exact absurd stands (nobody key rest)
            | idle | answered _ | dropped =>
                rw [stands] at pending
                cases pending
        rcases chosen with ⟨key, pending, next⟩
        rcases linear.exists_answer next with ⟨first, middle, reply, progress, ran, phases⟩
        have kept : ∀ other, other ≠ key → middle.phase other = state.phase other := by
          intro other different
          rw [phases, Function.update_of_ne different]
        have settled : middle.phase key = .answered reply := by
          rw [phases, Function.update_self]
        have fewer : ∀ other, (middle.phase other).isPending = true →
            other ∈ arrived.erase key := by
          intro other waits
          have different : other ≠ key := by
            rintro rfl
            rw [settled] at waits
            cases waits
          rw [kept other different] at waits
          exact (List.mem_erase_of_ne different).mpr (listed other waits)
        have length : (arrived.erase key).length = count := by
          rw [List.length_erase_of_mem (listed key pending), many, Nat.add_sub_cancel]
        rcases ih (linear.follow ran) (arrived.erase key) fewer length with
          ⟨rest, after, others, continued, ends⟩
        refine ⟨first ++ rest, after, ?_, ?_, fun other => ?_⟩
        · exact List.forall_mem_append.mpr ⟨progress, others⟩
        · rw [run_append, ran]
          exact continued
        · by_cases same : other = key
          · have answered := ends key
            rw [settled] at answered
            rw [same, if_pos pending]
            exact ⟨reply, answered⟩
          · have answered := ends other
            rwa [kept other same] at answered
      · refine ⟨[], state, fun _ member => absurd member List.not_mem_nil, rfl, fun key => ?_⟩
        rw [if_neg fun pending => some_ ⟨key, pending⟩]

/-- After any schedule, whoever waits or is inside can be answered. -/
theorem exists_completion {start : σ} {actions : List (Action κ)}
    (ran : run task (.initial start) actions = some state) :
    ∃ more after, (∀ action ∈ more, Action.isProgress action = true) ∧
      run task (.initial start) (actions ++ more) = some after ∧
      ∀ key, if (state.phase key).isPending then ∃ reply, after.phase key = .answered reply
        else after.phase key = state.phase key := by
  have listed : ∀ key, (state.phase key).isPending = true →
      key ∈ actions.filterMap Action.arrived := by
    intro key pending
    have active : state.phase key ≠ .idle := by
      intro stands
      rw [stands] at pending
      cases pending
    exact (arrived_of_run ran active).resolve_left fun busy => busy rfl
  rcases (linear_run ran).exists_completion _ listed with ⟨more, after, progress, continued, ends⟩
  refine ⟨more, after, progress, ?_, ends⟩
  rw [run_append, ran]
  exact continued

end Completion

end Actions

end ReadWriteLock
