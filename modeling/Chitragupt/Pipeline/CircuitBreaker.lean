import Chitragupt.Pipeline.Context

/-!
# The circuit breaker of the providers

A provider is degraded until a time in the map of the breaker.  The factory looks at the
breaker once, for the primary provider; it takes the fallback without another look, which
reaches a degraded provider exactly where an embedding falls back to OpenAI during an outage
of both.
-/

namespace Chitragupt

open Python (PyError)

/-- The time until which each provider is degraded, in seconds of the monotonic clock. -/
structure CircuitBreaker where
  degradedUntil : List (String × ExactFloat) := []

namespace CircuitBreaker

variable (breaker : CircuitBreaker) (now : ExactFloat)

def isDegraded (provider : String) : Bool :=
  now.lt ((breaker.degradedUntil.lookup provider).getD (.finite 0))

def markDegraded [FloatRounding] (provider : String) (durationSeconds : Int := 60) :
    CircuitBreaker where
  degradedUntil :=
    Python.assign provider (now + .finite durationSeconds) breaker.degradedUntil

/-- The providers at a time, with the outcomes of constructing the two SDK clients. -/
def providers (openrouter voyage : Except PyError Unit) : Providers where
  degraded := breaker.isDegraded now
  openrouter
  voyage

/-- A mark degrades its provider until its own end and leaves the others alone. -/
theorem isDegraded_markDegraded [FloatRounding] (marked : ExactFloat) (provider other : String)
    (durationSeconds : Int) :
    (breaker.markDegraded marked provider durationSeconds).isDegraded now other =
      if other = provider then now.lt (marked + .finite durationSeconds)
      else breaker.isDegraded now other := by
  rw [isDegraded, markDegraded]
  by_cases same : other = provider
  · rw [if_pos same, same, Python.lookup_assign_self, Option.getD_some]
  · rw [if_neg same, Python.lookup_assign_of_ne _ _ same, isDegraded]

end CircuitBreaker

namespace LLMFactory

variable {providers : Providers} {feature : LLMFeature} {stage : BudgetStage}
variable {config : OrchestrationConfig}

/-- The provider whose client is built. -/
def chosenProvider (providers : Providers) (feature : LLMFeature) (stage : BudgetStage)
    (config : OrchestrationConfig) : String :=
  let tier := resolveTier feature stage config
  if providers.degraded (providerForTier tier) then (fallbackTierAndProvider tier).2
  else providerForTier tier

theorem create_eq_buildClient (available : stage ≠ .exhausted) :
    create providers feature stage config =
      buildClient providers (chosenProvider providers feature stage config) :=
  if_neg available

/-- Every tier but the embedding tier falls back to Google. -/
theorem fallback_eq_google {tier : String} (other : tier ≠ "embedding") :
    (fallbackTierAndProvider tier).2 = "google" := by
  rw [fallbackTierAndProvider, if_neg other]
  split <;> rfl

/-- The client that is returned is one of a provider that is not degraded. -/
def RespectsBreaker (providers : Providers) (feature : LLMFeature) (stage : BudgetStage)
    (config : OrchestrationConfig) : Prop :=
  ∀ client, create providers feature stage config = .ok client →
    providers.degraded (chosenProvider providers feature stage config) = false

/-- An embedding is asked for while Voyage and OpenAI are both degraded. -/
def EmbeddingOutage (providers : Providers) (feature : LLMFeature) (stage : BudgetStage)
    (config : OrchestrationConfig) : Prop :=
  resolveTier feature stage config = "embedding" ∧ providers.degraded "voyage" = true ∧
    providers.degraded "openai" = true

theorem chosenProvider_of_embedding
    (embedding : resolveTier feature stage config = "embedding") :
    chosenProvider providers feature stage config =
      if providers.degraded "voyage" then "openai" else "voyage" := by
  rw [chosenProvider, embedding]
  rfl

/-- Outside the embedding tier a fallback raises. -/
theorem respectsBreaker_of_other_tier (available : stage ≠ .exhausted)
    (other : resolveTier feature stage config ≠ "embedding") :
    RespectsBreaker providers feature stage config := by
  intro client returned
  rw [create_eq_buildClient available] at returned
  cases degraded : providers.degraded (providerForTier (resolveTier feature stage config)) with
  | false => simp [chosenProvider, degraded]
  | true =>
      rw [chosenProvider, if_pos degraded, fallback_eq_google other] at returned
      cases returned

theorem respectsBreaker_of_embedding (available : stage ≠ .exhausted)
    (embedding : resolveTier feature stage config = "embedding") :
    RespectsBreaker providers feature stage config ↔
      ¬(providers.degraded "voyage" = true ∧ providers.degraded "openai" = true ∧
        providers.openrouter = .ok ()) := by
  rw [RespectsBreaker, create_eq_buildClient available, chosenProvider_of_embedding embedding]
  cases voyage : providers.degraded "voyage" with
  | false => simp [voyage]
  | true =>
      cases openrouter : providers.openrouter with
      | error error => simp [buildClient, openrouter, Except.map]
      | ok => simp [buildClient, openrouter, Except.map]

/-- The breaker is respected unless an embedding is asked for during an outage of both of its
providers and the client of the second one can be had. -/
theorem respectsBreaker_iff (breaker : CircuitBreaker) (now : ExactFloat)
    (openrouter voyage : Except PyError Unit) (feature : LLMFeature) (stage : BudgetStage)
    (config : OrchestrationConfig) :
    RespectsBreaker (breaker.providers now openrouter voyage) feature stage config ↔
      stage = .exhausted ∨ openrouter ≠ .ok () ∨
        ¬EmbeddingOutage (breaker.providers now openrouter voyage) feature stage config := by
  by_cases exhausted : stage = .exhausted
  · refine iff_of_true (fun client returned => ?_) (.inl exhausted)
    rw [create, if_pos exhausted] at returned
    cases returned
  by_cases embedding : resolveTier feature stage config = "embedding"
  · rw [respectsBreaker_of_embedding exhausted embedding, EmbeddingOutage]
    simp only [exhausted, embedding, false_or, true_and, CircuitBreaker.providers]
    tauto
  · refine iff_of_true (respectsBreaker_of_other_tier exhausted embedding) (.inr (.inr ?_))
    exact fun outage => embedding outage.1

/-! ### An outage of two providers -/

section Sample

attribute [local instance] FloatRounding.exact

/-- Voyage and OpenAI are marked one after the other. -/
def sampleOutages : CircuitBreaker :=
  (CircuitBreaker.markDegraded {} (.finite 100) "voyage").markDegraded (.finite 110) "openai"

/-- A document is embedded by the provider that was marked a moment ago. -/
theorem not_respectsBreaker_of_sampleOutages :
    ¬∀ (breaker : CircuitBreaker) (now : ExactFloat) (openrouter voyage : Except PyError Unit)
        (feature : LLMFeature) (stage : BudgetStage) (config : OrchestrationConfig),
      stage ≠ .exhausted →
        RespectsBreaker (breaker.providers now openrouter voyage) feature stage config := by
  intro all
  have respected := all sampleOutages (.finite 120) (.ok ()) (.ok ()) .embedding .normal {}
    (by decide) .openrouter (by decide +kernel)
  exact absurd respected (by decide +kernel)

end Sample

end LLMFactory

end Chitragupt
