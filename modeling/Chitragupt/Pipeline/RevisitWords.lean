import Chitragupt.Lib.Characters
import Chitragupt.Lib.WholeWords
import Chitragupt.Pipeline.RevisitAgreement

/-!
# Revisits by words

Both tables of keywords are searched for letters: a keyword inside a longer word counts as
well.  The routing reacts to words as long as a keyword that is found so also stands in the
message as words of its own.
-/

namespace Chitragupt

open Python (CharacterData isWordCharacter)
open WholeWords (Occurs)
open IntentClassifier (maybeRevisit revisitKeywords)

namespace RevisitHandler

/-- The target is the earliest phase that the message names. -/
theorem extractTargetPhase_eq_some_iff {message : Text} {phase : SessionPhase} :
    extractTargetPhase message = some phase.variantName ↔
      Names message phase ∧ ∀ other, Names message other → phase.position ≤ other.position := by
  constructor
  · intro found
    obtain ⟨first, same, names, earliest⟩ := extractTargetPhase_eq_some found
    have equal := congrArg positionOf same
    rw [positionOf_variantName, positionOf_variantName] at equal
    rw [← SessionPhase.position_injective equal]
    exact ⟨names, earliest⟩
  · rintro ⟨names, earliest⟩
    cases found : extractTargetPhase message with
    | none => exact absurd names (extractTargetPhase_eq_none.mp found phase)
    | some target =>
        obtain ⟨first, rfl, namesFirst, earliestFirst⟩ := extractTargetPhase_eq_some found
        have equal := le_antisymm (earliest first namesFirst) (earliestFirst phase names)
        rw [SessionPhase.position_injective equal]

end RevisitHandler

open RevisitHandler (Names extractTargetPhase phaseAliases)

section RevisitWords

variable [CharacterData]

/-- The keyword stands in the message as whole words. -/
def StandsIn (message : Text) (keyword : String) : Prop :=
  Occurs isWordCharacter (Text.ofString keyword) message

instance (message : Text) (keyword : String) : Decidable (StandsIn message keyword) :=
  inferInstanceAs (Decidable (Occurs isWordCharacter (Text.ofString keyword) message))

/-- Some keyword of the phase stands in the message. -/
def NamesInWords (message : Text) (phase : SessionPhase) : Prop :=
  ∃ keyword, (keyword, phase.variantName) ∈ phaseAliases ∧ StandsIn message keyword

/-- A message without the words of a revisit stays a clarification, and its target is no phase
that it does not name in words. -/
structure RoutedByWords (message : Text) : Prop where
  intent : (∀ keyword ∈ revisitKeywords, ¬StandsIn (Text.lower message) keyword) →
    maybeRevisit "Clarification" message = "Clarification"
  target : ∀ phase : SessionPhase, ¬NamesInWords message phase →
    extractTargetPhase message ≠ some phase.variantName

omit [CharacterData] in
theorem maybeRevisit_eq_iff {message : Text} :
    maybeRevisit "Clarification" message = "Clarification" ↔
      ¬mentions (Text.lower message) revisitKeywords = true := by
  simp [maybeRevisit]

/-- The routing reacts to words exactly when a message that contains a keyword of revisits also
has one as words, and so for the earliest phase that the message names. -/
theorem routedByWords_iff (message : Text) :
    RoutedByWords message ↔
      (mentions (Text.lower message) revisitKeywords = true →
        ∃ keyword ∈ revisitKeywords, StandsIn (Text.lower message) keyword) ∧
      ∀ phase, Names message phase →
        (∀ other, Names message other → phase.position ≤ other.position) →
          NamesInWords message phase := by
  constructor
  · rintro ⟨intent, target⟩
    constructor
    · intro mentioned
      by_contra none
      simp only [not_exists, not_and] at none
      exact maybeRevisit_eq_iff.mp (intent none) mentioned
    · intro phase names earliest
      by_contra unnamed
      exact target phase unnamed
        (RevisitHandler.extractTargetPhase_eq_some_iff.mpr ⟨names, earliest⟩)
  · rintro ⟨revisits, targets⟩
    constructor
    · intro none
      refine maybeRevisit_eq_iff.mpr fun mentioned => ?_
      rcases revisits mentioned with ⟨keyword, listed, stands⟩
      exact none keyword listed stands
    · intro phase unnamed found
      rcases RevisitHandler.extractTargetPhase_eq_some_iff.mp found with ⟨names, earliest⟩
      exact unnamed (targets phase names earliest)

end RevisitWords

/-! ### Letters of other words -/

section Sample

attribute [local instance] Python.plainCharacters

/-- A question without a keyword, but with the letters of two. -/
def sampleFeedback : Text := .ofString "who gives feedback to the search team?"

example : extractTargetPhase sampleFeedback = some "ArchitectureAlignment" := by decide

/-- It is taken for a revisit. -/
theorem not_routedByWords_of_sampleFeedback : ¬RoutedByWords sampleFeedback := by
  rintro ⟨intent, target⟩
  have quiet : ∀ keyword ∈ revisitKeywords, ¬StandsIn (Text.lower sampleFeedback) keyword := by
    decide
  have rerouted : maybeRevisit "Clarification" sampleFeedback = "REVISIT" := by decide
  rw [intent quiet] at rerouted
  exact absurd rerouted (by decide)

end Sample

end Chitragupt
