import Chitragupt.Lib.Regex

/-!
# Whole words

A pattern occurs in a text as whole words when no word character stands right before or right
behind it.  An occurrence among the letters of a longer word is an infix and nothing more.
-/

namespace WholeWords

open Regex (headWord lastWord)

variable {α : Type*} (isWord : α → Bool)

/-- The pattern stands in the text between two boundaries of words. -/
def Occurs (pattern text : List α) : Prop :=
  ∃ before after, text = before ++ (pattern ++ after) ∧
    lastWord isWord false before = false ∧ headWord isWord after false = false

/-! ## Search -/

variable [DecidableEq α]

/-- The pattern starts the text and ends with it or in front of no word character. -/
def startsWith (pattern text : List α) : Bool :=
  pattern.isPrefixOf text && !headWord isWord (text.drop pattern.length) false

/-- The search through the rest of a text; `inside` says whether a word character comes
right before it. -/
def occursFrom (pattern : List α) : Bool → List α → Bool
  | inside, [] => !inside && startsWith isWord pattern []
  | inside, char :: rest =>
      !inside && startsWith isWord pattern (char :: rest) || occursFrom pattern (isWord char) rest

variable {isWord}

theorem startsWith_iff {pattern text : List α} :
    startsWith isWord pattern text = true ↔
      ∃ after, text = pattern ++ after ∧ headWord isWord after false = false := by
  rw [startsWith, Bool.and_eq_true, List.isPrefixOf_iff_prefix, Bool.not_eq_true']
  constructor
  · rintro ⟨⟨after, rfl⟩, ends⟩
    rw [List.drop_left] at ends
    exact ⟨after, rfl, ends⟩
  · rintro ⟨after, rfl, ends⟩
    rw [List.drop_left]
    exact ⟨List.prefix_append pattern after, ends⟩

theorem occursFrom_iff {pattern text : List α} {inside : Bool} :
    occursFrom isWord pattern inside text = true ↔
      ∃ before after, text = before ++ (pattern ++ after) ∧
        lastWord isWord inside before = false ∧ headWord isWord after false = false := by
  induction text generalizing inside with
  | nil =>
      rw [occursFrom, Bool.and_eq_true, Bool.not_eq_true', startsWith_iff]
      constructor
      · rintro ⟨outside, after, here, ends⟩
        exact ⟨[], after, here, outside, ends⟩
      · rintro ⟨before, after, split, starts, ends⟩
        rcases List.append_eq_nil_iff.mp split.symm with ⟨rfl, here⟩
        exact ⟨starts, after, here.symm, ends⟩
  | cons char rest ih =>
      rw [occursFrom, Bool.or_eq_true, Bool.and_eq_true, Bool.not_eq_true', startsWith_iff, ih]
      constructor
      · rintro (⟨outside, after, here, ends⟩ | ⟨before, after, rfl, starts, ends⟩)
        · exact ⟨[], after, here, outside, ends⟩
        · exact ⟨char :: before, after, rfl, starts, ends⟩
      · rintro ⟨before, after, split, starts, ends⟩
        cases before with
        | nil => exact .inl ⟨starts, after, split, ends⟩
        | cons first before =>
            rcases List.cons.inj split with ⟨rfl, rfl⟩
            exact .inr ⟨before, after, rfl, starts, ends⟩

instance (pattern text : List α) : Decidable (Occurs isWord pattern text) :=
  decidable_of_iff (occursFrom isWord pattern false text = true) occursFrom_iff

end WholeWords
