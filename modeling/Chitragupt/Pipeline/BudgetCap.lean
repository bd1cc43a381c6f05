import Chitragupt.Lib.Machine
import Chitragupt.Pipeline.Context
import Mathlib.Tactic.NormNum

/-!
# The hard cap on the spend

A context keeps the client of each feature once it has been constructed.  The budget is
checked against a fixed limit, and only before a client is constructed.
-/

namespace Chitragupt

open Machines (Machine)
open Python (PyError Json)

/-- A context with the clients it has handed out. -/
structure SlottedContext where
  context : SessionLLMContext
  slots : List (LLMFeature × LLMClient)

/-- Raised for want of budget. -/
def budgetError : Python.ExceptionClass := .other "BudgetExhaustedError"

/-- The SDKs do not know the exception of the budget. -/
structure SdkProviders extends Providers where
  openrouterForeign : ∀ error, openrouter = .error error → error.cls ≠ budgetError
  voyageForeign : ∀ error, voyage = .error error → error.cls ≠ budgetError

/-- What is asked of a context during a turn. -/
inductive ContextCall where
  | get (providers : SdkProviders) (feature : LLMFeature)
  | record (cost : ExactFloat) (connection : RedisConnection)

namespace SlottedContext

/-- The client of a feature, from its slot or newly constructed. -/
def get (providers : Providers) (feature : LLMFeature) (slotted : SlottedContext) :
    Except PyError LLMClient × SlottedContext :=
  match slotted.slots.lookup feature with
  | some client => (.ok client, slotted)
  | none =>
      match slotted.context.get providers feature with
      | .error error => (.error error, slotted)
      | .ok client =>
          (.ok client, { slotted with slots := Python.assign feature client slotted.slots })

def record [FloatRounding] (cost : ExactFloat) (connection : RedisConnection)
    (slotted : SlottedContext) : SlottedContext :=
  { slotted with
    context := { slotted.context with
      budget := (slotted.context.budget.record cost connection).1 } }

/-- A context as it is made for a turn. -/
def forTurn [Rendering] (config : OrchestrationConfig) (connection : RedisConnection)
    (session : Json) : SlottedContext where
  context := .forTurn config connection session
  slots := []

/-- A context during a turn; only `get` has an answer. -/
def machine [FloatRounding] :
    Machine SlottedContext ContextCall (Option (Except PyError LLMClient)) where
  step slotted call :=
    match call with
    | .get providers feature =>
        let (client, after) := slotted.get providers.toProviders feature
        (after, some client)
    | .record cost connection => (slotted.record cost connection, none)

/-- The spend of the session, as loaded and recorded. -/
def spentUsd (slotted : SlottedContext) : ExactFloat := slotted.context.budget.spentUsd

/-- The costs of the calls, in order. -/
def costs : List ContextCall → List ExactFloat
  | [] => []
  | .get _ _ :: calls => costs calls
  | .record cost _ :: calls => cost :: costs calls

/-- Handing out a client touches nothing but its slot. -/
@[simp] theorem context_get (slotted : SlottedContext) (providers : Providers)
    (feature : LLMFeature) : (slotted.get providers feature).2.context = slotted.context := by
  unfold get
  split
  · rfl
  · split <;> rfl

/-- What was loaded and the costs recorded since. -/
theorem spentUsd_run [FloatRounding] (slotted : SlottedContext) (calls : List ContextCall) :
    (machine.run slotted calls).spentUsd = (costs calls).foldl (· + ·) slotted.spentUsd := by
  induction calls generalizing slotted with
  | nil => rfl
  | cons call calls ih =>
      rw [Machine.run_cons, ih]
      cases call with
      | record cost connection => rfl
      | get providers feature =>
          have kept : (machine.next slotted (.get providers feature)).spentUsd =
              slotted.spentUsd := by
            change (slotted.get providers.toProviders feature).2.context.budget.spentUsd = _
            rw [context_get]
            rfl
          rw [kept, costs]

/-- The limit of the tracker stays what it was. -/
theorem limitUsd_fixes [FloatRounding] : machine.Fixes (·.context.budget.limitUsd) := by
  intro slotted call
  cases call with
  | record cost connection => rfl
  | get providers feature =>
      change (slotted.get providers.toProviders feature).2.context.budget.limitUsd = _
      rw [context_get]

/-! ## The slots -/

/-- An answer to a request for a feature that hands out a client. -/
def Serves (feature : LLMFeature)
    (happened : Machines.Event SlottedContext ContextCall (Option (Except PyError LLMClient))) :
    Prop :=
  ∃ providers client, happened.input = .get providers feature ∧
    happened.output = some (.ok client)

/-- A call leaves a slot empty when it was empty and no client was handed out. -/
theorem slots_next [FloatRounding] (slotted : SlottedContext) (call : ContextCall)
    (feature : LLMFeature) :
    (machine.next slotted call).slots.lookup feature = none ↔
      slotted.slots.lookup feature = none ∧ ¬Serves feature (machine.event slotted call) := by
  cases call with
  | record cost connection =>
      have unserved : ¬Serves feature (machine.event slotted (.record cost connection)) := by
        rintro ⟨_, _, input, _⟩
        cases input
      exact (and_iff_left unserved).symm
  | get providers asked =>
      have serves : Serves feature (machine.event slotted (.get providers asked)) ↔
          asked = feature ∧ ∃ client,
            (slotted.get providers.toProviders asked).1 = .ok client := by
        constructor
        · rintro ⟨_, client, input, output⟩
          cases input
          exact ⟨rfl, client, Option.some.inj output⟩
        · rintro ⟨rfl, client, answered⟩
          exact ⟨providers, client, rfl, congrArg some answered⟩
      rw [serves]
      change (slotted.get providers.toProviders asked).2.slots.lookup feature = none ↔ _
      unfold get
      cases found : slotted.slots.lookup asked with
      | some client =>
          constructor
          · intro empty
            refine ⟨empty, ?_⟩
            rintro ⟨rfl, _⟩
            rw [found] at empty
            cases empty
          · exact And.left
      | none =>
          dsimp only
          cases slotted.context.get providers.toProviders asked with
          | error error => simp
          | ok client =>
              by_cases same : asked = feature
              · subst same
                simp
              · simp [same, Python.lookup_assign_of_ne _ _ (Ne.symm same)]

/-- A slot is taken once a client has been handed out for its feature. -/
def SlotTells (feature : LLMFeature)
    (events : List (Machines.Event SlottedContext ContextCall
      (Option (Except PyError LLMClient)))) (slotted : SlottedContext) : Prop :=
  slotted.slots.lookup feature = none ↔ ∀ happened ∈ events, ¬Serves feature happened

theorem slotTells_run [FloatRounding] [Rendering] (config : OrchestrationConfig)
    (connection : RedisConnection) (session : Json) (calls : List ContextCall)
    (feature : LLMFeature) :
    SlotTells feature (machine.trace (forTurn config connection session) calls)
      (machine.run (forTurn config connection session) calls) := by
  have always : machine.Meets (fun _ _ => True) (forTurn config connection session) calls :=
    fun _ _ => trivial
  apply machine.history_run _ _ always
  · simp [SlotTells, forTurn]
  · intro events current call _ tells
    unfold SlotTells at tells ⊢
    rw [slots_next, tells, List.forall_mem_append, List.forall_mem_singleton]

/-! ## The cap -/

theorem cls_of_buildClient_error (providers : SdkProviders) {provider : String}
    {error : PyError}
    (raised : LLMFactory.buildClient providers.toProviders provider = .error error) :
    error.cls ≠ budgetError := by
  have mapped : ∀ {built : Except PyError Unit} {client : LLMClient},
      built.map (fun _ => client) = .error error → built = .error error := by
    intro built client same
    cases built with
    | error other => rw [Except.error.inj same]
    | ok _ => cases same
  unfold LLMFactory.buildClient at raised
  split at raised
  · exact providers.openrouterForeign error (mapped raised)
  · exact providers.openrouterForeign error (mapped raised)
  · exact providers.voyageForeign error (mapped raised)
  · cases raised
    decide
  · cases raised
    exact (by decide : Python.ExceptionClass.valueError ≠ budgetError)

/-- The factory does not raise for want of budget before the budget is exhausted. -/
theorem cls_of_create_error (providers : SdkProviders) {feature : LLMFeature}
    {stage : BudgetStage} (available : stage ≠ .exhausted) {config : OrchestrationConfig}
    {error : PyError}
    (raised : LLMFactory.create providers.toProviders feature stage config = .error error) :
    error.cls ≠ budgetError := by
  rw [LLMFactory.create, if_neg available] at raised
  exact cls_of_buildClient_error providers raised

theorem stage_eq_exhausted (tracker : BudgetTracker) :
    tracker.stage = .exhausted ↔ tracker.spentUsd.ge tracker.limitUsd = true := by
  unfold BudgetTracker.stage
  split_ifs with limit <;> simp [limit]

/-- A request is refused for want of budget exactly when the slot is empty and the spend
has reached the limit of the tracker. -/
theorem refused_iff (slotted : SlottedContext) (providers : SdkProviders)
    (feature : LLMFeature) :
    (∃ error, (slotted.get providers.toProviders feature).1 = .error error ∧
        error.cls = budgetError) ↔
      slotted.slots.lookup feature = none ∧
        slotted.spentUsd.ge slotted.context.budget.limitUsd = true := by
  rw [spentUsd, ← stage_eq_exhausted]
  unfold get
  cases slotted.slots.lookup feature with
  | some client => simp
  | none =>
      by_cases exhausted : slotted.context.budget.stage = .exhausted
      · simp [SessionLLMContext.get, exhausted, LLMFactory.budgetExhaustedError, budgetError]
      · rw [SessionLLMContext.get, if_neg exhausted]
        apply iff_of_false
        · rintro ⟨error, raised, cls⟩
          cases made : LLMFactory.create providers.toProviders feature
              slotted.context.budget.stage slotted.context.config with
          | ok client =>
              rw [made] at raised
              cases raised
          | error other =>
              rw [made] at raised
              cases raised
              exact cls_of_create_error providers exhausted made cls
        · exact fun both => exhausted both.2

section Runs

variable [FloatRounding] [Rendering] (config : OrchestrationConfig)
  (connection : RedisConnection) (session : Json) (calls : List ContextCall)

/-- Every request at or above the configured limit is refused. -/
def CapEnforced : Prop :=
  ∀ happened ∈ machine.trace (forTurn config connection session) calls,
    ∀ providers feature, happened.input = .get providers feature →
      happened.before.spentUsd.ge config.budget.sessionLimitUsd = true →
        ∃ error, happened.output = some (.error error) ∧ error.cls = budgetError

/-- Every request at or above the configured limit is for a feature without a client, and
at or above the fixed limit too. -/
def CapChecked : Prop :=
  ∀ happened ∈ machine.trace (forTurn config connection session) calls,
    ∀ providers feature, happened.input = .get providers feature →
      happened.before.spentUsd.ge config.budget.sessionLimitUsd = true →
        happened.before.slots.lookup feature = none ∧
          happened.before.spentUsd.ge BudgetTracker.defaultLimitUsd = true

/-- The cap is enforced exactly in the runs in which every request that it concerns comes
to the check, and the check compares with no smaller limit. -/
theorem capEnforced_iff :
    CapEnforced config connection session calls ↔
      CapChecked config connection session calls := by
  apply forall₂_congr
  intro happened member
  apply forall₄_congr
  intro providers feature asked above
  obtain ⟨earlier, call, later, _, rfl⟩ := machine.mem_trace.mp member
  change call = .get providers feature at asked
  subst asked
  have refused := refused_iff (machine.run (forTurn config connection session) earlier)
    providers feature
  have limit : (machine.run (forTurn config connection session)
      earlier).context.budget.limitUsd = BudgetTracker.defaultLimitUsd :=
    limitUsd_fixes.run (forTurn config connection session) earlier
  rw [limit] at refused
  refine Iff.trans ?_ refused
  exact exists_congr fun error => and_congr_left fun _ => Option.some_inj

end Runs

/-! ### A client that outlives the budget -/

section Sample

attribute [local instance] FloatRounding.exact referenceRendering

/-- Providers whose clients can all be constructed. -/
def sampleSdks : SdkProviders where
  degraded _ := false
  openrouter := .ok ()
  voyage := .ok ()
  openrouterForeign _ raised := nomatch raised
  voyageForeign _ raised := nomatch raised

/-- A feature is used, five dollars are spent, and the feature is used again. -/
def sampleCalls : List ContextCall :=
  [ .get sampleSdks .requirementRefinement,
    .record (.finite 5) .absent,
    .get sampleSdks .requirementRefinement ]

/-- The second request gets the client of the first. -/
theorem not_capEnforced_of_sampleCalls :
    ¬∀ config connection session calls, CapEnforced config connection session calls := by
  intro all
  let earlier := sampleCalls.take 2
  have taken : (machine.run (forTurn {} .absent (.dict [])) earlier).slots.lookup
      .requirementRefinement = some .openrouter := by
    decide +kernel
  have spent : (machine.run (forTurn {} .absent (.dict [])) earlier).spentUsd =
      .finite 5 := by
    decide +kernel
  have refused := all {} .absent (.dict []) sampleCalls _
    (machine.mem_trace.mpr ⟨earlier, _, [], rfl, rfl⟩) sampleSdks .requirementRefinement rfl
    (by
      change (machine.run (forTurn {} .absent (.dict [])) earlier).spentUsd.ge (.finite 5) = true
      rw [spent]
      decide +kernel)
  change ∃ error, some ((machine.run (forTurn {} .absent (.dict [])) earlier).get
    sampleSdks.toProviders .requirementRefinement).1 = some (.error error) ∧ _ at refused
  simp only [Option.some_inj] at refused
  rw [refused_iff, taken] at refused
  cases refused.1

end Sample

end SlottedContext

end Chitragupt
