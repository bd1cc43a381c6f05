import Chitragupt.Lib.Machine

/-!
# Cooperative scheduling

Tasks over a shared state that switch only where the running task suspends.  A schedule
names the task that is to move next, and moves of a task that is not allowed to run are
lost; every order of moves that the tasks allow is the run of some schedule.

Between two suspensions of a task nobody else moves, so a fact that ties the task to the
shared state needs to hold there only, and no other task can break it.
-/

namespace Machines

/-- A task with its own state.  A task that has ended takes no step and stays
suspended. -/
structure Coroutine (τ σ : Type*) where
  step : τ → σ → Option (τ × σ)
  suspended : τ → Bool

/-- The tasks, the shared state, and the task between two suspensions, if any. -/
structure Tasks (ι τ σ : Type*) where
  locals : ι → τ
  shared : σ
  running : Option ι

namespace Coroutine

variable {ι τ σ : Type*} [DecidableEq ι] (coroutine : ι → Coroutine τ σ)

/-- The task may move now. -/
def MayRun (tasks : Tasks ι τ σ) (task : ι) : Prop :=
  tasks.running = none ∨ tasks.running = some task

instance (tasks : Tasks ι τ σ) (task : ι) : Decidable (MayRun tasks task) :=
  inferInstanceAs (Decidable (_ ∨ _))

/-- Let one task move. -/
def advance (tasks : Tasks ι τ σ) (mover : ι) : Tasks ι τ σ :=
  if MayRun tasks mover then
    match (coroutine mover).step (tasks.locals mover) tasks.shared with
    | none => tasks
    | some (moved, shared) =>
        { locals := Function.update tasks.locals mover moved
          shared
          running := if (coroutine mover).suspended moved then none else some mover }
  else tasks

/-- The scheduler as a machine whose inputs are the tasks to move. -/
def scheduler : Machine (Tasks ι τ σ) ι Unit where
  step tasks mover := (advance coroutine tasks mover, ())

/-- A task keeps its private facts, and outside its suspensions the critical ones too. -/
def Keeps (privately : ι → τ → Prop) (critical : ι → τ → σ → Prop)
    (tasks : Tasks ι τ σ) : Prop :=
  ∀ task, privately task (tasks.locals task) ∧
    ((coroutine task).suspended (tasks.locals task) = true ∨
      tasks.running = some task ∧ critical task (tasks.locals task) tasks.shared)

variable {coroutine}

/-- Facts that each task keeps by itself hold at the end of every schedule. -/
theorem keeps_run {privately : ι → τ → Prop} {critical : ι → τ → σ → Prop}
    (kept : ∀ task state shared moved after,
      (coroutine task).step state shared = some (moved, after) → privately task state →
      ((coroutine task).suspended state = true ∨ critical task state shared) →
      privately task moved ∧
        ((coroutine task).suspended moved = true ∨ critical task moved after))
    {tasks : Tasks ι τ σ} (opens : Keeps coroutine privately critical tasks)
    (schedule : List ι) :
    Keeps coroutine privately critical ((scheduler coroutine).run tasks schedule) := by
  induction schedule generalizing tasks with
  | nil => exact opens
  | cons mover schedule ih =>
      apply ih
      change Keeps coroutine privately critical (advance coroutine tasks mover)
      rw [advance]
      split
      next may =>
        split
        next => exact opens
        next moved shared step =>
          intro task
          by_cases same : task = mover
          · subst same
            have critically := (opens task).2.imp_right And.right
            have next := kept task _ _ moved shared step (opens task).1 critically
            dsimp only
            rw [Function.update_self]
            refine ⟨next.1, ?_⟩
            rcases next.2 with suspended | holds
            · exact .inl suspended
            · by_cases suspended : (coroutine task).suspended moved = true
              · exact .inl suspended
              · exact .inr ⟨if_neg suspended, holds⟩
          · dsimp only
            rw [Function.update_of_ne same]
            refine ⟨(opens task).1, .inl ?_⟩
            rcases (opens task).2 with suspended | ⟨running, _⟩
            · exact suspended
            · rcases may with idle | busy
              · rw [running] at idle
                cases idle
              · rw [running] at busy
                cases busy
                exact absurd rfl same
      next => exact opens

end Coroutine

end Machines
