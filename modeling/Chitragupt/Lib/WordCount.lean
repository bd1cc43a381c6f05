import Chitragupt.Lib.Redaction

/-!
# Counting words

A text has as many words as there are places where one starts.  A part between two solid
characters that is replaced by one word takes away the words that start inside of it, so that
no replacement adds words, and only parts with white space take some away.
-/

namespace WordCount

open Regex (headWord lastWord)

variable {α β : Type*} (space : α → Bool)

/-- The number of words that start in a text, behind white space or behind another character. -/
def starts : Bool → List α → Nat
  | _, [] => 0
  | solid, char :: rest =>
      if space char then starts false rest
      else if solid then starts true rest
      else starts true rest + 1

/-- A text that starts and ends with other characters than white space. -/
structure Firm (text : List α) : Prop where
  begins : headWord (!space ·) text false = true
  ends : lastWord (!space ·) false text = true

/-- The words that start inside of the replaced parts. -/
def lost : List (Segment α) → Nat
  | [] => 0
  | .kept _ :: rest => lost rest
  | .replaced _ text :: rest => starts space true text + lost rest

variable {space}

/-! ## The words of a split text -/

/-- The parts of a split text that are not empty start at these places; the first part belongs
to what is in front of the text. -/
theorem length_filter_splitOnP [DecidableEq α] (text : List α) :
    ((text.splitOnP space).filter (· ≠ [])).length = starts space false text ∧
      ((text.splitOnP space).tail.filter (· ≠ [])).length = starts space true text := by
  induction text with
  | nil => exact ⟨rfl, rfl⟩
  | cons char rest ih =>
      rw [List.splitOnP_cons_eq_if_modifyHead, starts, starts]
      split
      next white => exact ⟨ih.1, ih.1⟩
      next solid =>
        cases parts : rest.splitOnP space with
        | nil => exact absurd parts (List.splitOnP_ne_nil space rest)
        | cons first others =>
            rw [parts] at ih
            refine ⟨?_, ih.2⟩
            rw [List.modifyHead_cons, List.filter_cons_of_pos (by simp), List.length_cons]
            exact congrArg (· + 1) ih.2

/-! ## Texts with solid edges -/

theorem firm_map_iff (code : β → α) {text : List β} :
    Firm space (text.map code) ↔ Firm (space ∘ code) text := by
  constructor
  · rintro ⟨begins, ends⟩
    rw [Regex.headWord_map] at begins
    rw [Regex.lastWord_map] at ends
    exact ⟨begins, ends⟩
  · rintro ⟨begins, ends⟩
    refine ⟨?_, ?_⟩
    · rw [Regex.headWord_map]
      exact begins
    · rw [Regex.lastWord_map]
      exact ends

/-- A word is firm. -/
theorem firm_of_solid {text : List α} (nonempty : text ≠ [])
    (solid : ∀ char ∈ text, space char = false) : Firm space text := by
  constructor
  · cases text with
    | nil => exact absurd rfl nonempty
    | cons char rest => rw [headWord, solid char List.mem_cons_self, Bool.not_false]
  · rcases List.eq_nil_or_concat text with rfl | ⟨early, last, rfl⟩
    · exact absurd rfl nonempty
    · rw [List.concat_eq_append] at solid ⊢
      rw [Regex.lastWord_append, lastWord, lastWord, solid last (by simp), Bool.not_false]

/-- A text between two members of a class without white space is firm. -/
theorem firm_of_edges {member : α → Bool} (solid : ∀ char, member char = true → space char = false)
    {text : List α} (begins : headWord member text false = true)
    (ends : lastWord member false text = true) : Firm space text := by
  constructor
  · cases text with
    | nil => cases begins
    | cons char rest => rw [headWord, solid char begins, Bool.not_false]
  · rcases List.eq_nil_or_concat text with rfl | ⟨early, last, rfl⟩
    · cases begins
    · rw [List.concat_eq_append, Regex.lastWord_append, lastWord, lastWord] at ends ⊢
      rw [solid last ends, Bool.not_false]

/-! ## Words of joined texts -/

theorem starts_map (code : β → α) (solid : Bool) (text : List β) :
    starts space solid (text.map code) = starts (space ∘ code) solid text := by
  induction text generalizing solid with
  | nil => rfl
  | cons char rest ih =>
      rw [List.map_cons, starts, starts, ih, ih]
      rfl

theorem starts_append (solid : Bool) (front back : List α) :
    starts space solid (front ++ back) =
      starts space solid front + starts space (lastWord (!space ·) solid front) back := by
  induction front generalizing solid with
  | nil => rw [List.nil_append, starts, Nat.zero_add, lastWord]
  | cons char rest ih =>
      rw [List.cons_append, starts, starts, ih, ih, lastWord]
      cases space char with
      | true => rfl
      | false =>
          cases solid with
          | true => rfl
          | false => exact Nat.add_right_comm _ _ _

/-- A text without a start has nothing but white space. -/
theorem starts_false_eq_zero_iff {text : List α} :
    starts space false text = 0 ↔ ∀ char ∈ text, space char = true := by
  induction text with
  | nil => simp [starts]
  | cons char rest ih =>
      rw [starts, List.forall_mem_cons]
      cases space char with
      | true => simpa using ih
      | false => simp

namespace Firm

variable {text : List α} (firm : Firm space text)

include firm

theorem ne_nil : text ≠ [] := by
  rintro rfl
  cases firm.begins

/-- Such a text starts a word, unless one is there already. -/
theorem starts_append (solid : Bool) (back : List α) :
    starts space solid (text ++ back) =
      (if solid then 0 else 1) + starts space true text + starts space true back := by
  rw [WordCount.starts_append, Regex.lastWord_of_ne_nil firm.ne_nil solid false, firm.ends]
  cases text with
  | nil => exact absurd rfl firm.ne_nil
  | cons char rest =>
      have here : space char = false := by simpa [headWord] using firm.begins
      rw [starts, starts, here]
      cases solid with
      | true => simp
      | false => simp [Nat.add_comm]

/-- No word starts inside exactly when there is no white space. -/
theorem starts_eq_zero_iff :
    starts space true text = 0 ↔ ∀ char ∈ text, space char = false := by
  have ends := firm.ends
  clear firm
  induction text with
  | nil => simp [starts]
  | cons char rest ih =>
      rw [starts, List.forall_mem_cons]
      cases here : space char with
      | true =>
          rw [lastWord, here] at ends
          simp only [if_true, Bool.true_eq_false, false_and, iff_false]
          intro none'
          rw [starts_false_eq_zero_iff] at none'
          cases rest with
          | nil => cases ends
          | cons other more =>
              rcases List.eq_nil_or_concat (other :: more) with empty | ⟨early, last, same⟩
              · cases empty
              · rw [same] at ends none'
                rw [List.concat_eq_append] at ends none'
                rw [Regex.lastWord_append, lastWord, lastWord, none' last (by simp)] at ends
                cases ends
      | false =>
          simp only [Bool.false_eq_true, if_false, if_true, true_and]
          cases rest with
          | nil => simp [starts]
          | cons other more =>
              apply ih
              rw [lastWord, here] at ends
              rwa [Regex.lastWord_of_ne_nil (List.cons_ne_nil _ _) false _]

end Firm

/-! ## Words of a redacted text -/

/-- Firm parts are replaced by labels that are words. -/
structure Worded (space : α → Bool) (segments : List (Segment α)) : Prop where
  firm : ∀ label text, .replaced label text ∈ segments → Firm space text
  nonempty : ∀ label text, .replaced label text ∈ segments → label ≠ []
  solid : ∀ label text, .replaced label text ∈ segments → ∀ char ∈ label, space char = false

theorem Worded.tail {segment : Segment α} {segments : List (Segment α)}
    (worded : Worded space (segment :: segments)) : Worded space segments where
  firm label text member := worded.firm label text (List.mem_cons_of_mem _ member)
  nonempty label text member := worded.nonempty label text (List.mem_cons_of_mem _ member)
  solid label text member := worded.solid label text (List.mem_cons_of_mem _ member)

/-- The words of the source are those that are shown and those that are lost. -/
theorem starts_source {segments : List (Segment α)} (worded : Worded space segments)
    (solid : Bool) :
    starts space solid (Segment.source segments) =
      starts space solid (Segment.shown segments) + lost space segments := by
  induction segments generalizing solid with
  | nil => rfl
  | cons segment rest ih =>
      cases segment with
      | kept char =>
          rw [Segment.source, Segment.shown, starts, starts, ih worded.tail, ih worded.tail, lost]
          cases space char with
          | true => rfl
          | false =>
              cases solid with
              | true => rfl
              | false => exact Nat.add_right_comm _ _ _
      | replaced label text =>
          have solid' := worded.solid label text List.mem_cons_self
          have word := firm_of_solid (worded.nonempty label text List.mem_cons_self) solid'
          rw [Segment.source, Segment.shown, lost, word.starts_append,
            word.starts_eq_zero_iff.mpr solid',
            (worded.firm label text List.mem_cons_self).starts_append, ih worded.tail]
          omega

theorem lost_eq_zero_iff {segments : List (Segment α)} (worded : Worded space segments) :
    lost space segments = 0 ↔
      ∀ label text, .replaced label text ∈ segments → ∀ char ∈ text, space char = false := by
  induction segments with
  | nil => simp [lost]
  | cons segment rest ih =>
      cases segment with
      | kept char => simpa [lost] using ih worded.tail
      | replaced label text =>
          rw [lost, Nat.add_eq_zero_iff, ih worded.tail,
            (worded.firm label text List.mem_cons_self).starts_eq_zero_iff]
          simp only [List.mem_cons, Segment.replaced.injEq]
          constructor
          · rintro ⟨here, later⟩ label' text' (⟨rfl, rfl⟩ | member)
            · exact here
            · exact later label' text' member
          · intro all
            exact ⟨all label text (.inl ⟨rfl, rfl⟩), fun label' text' member =>
              all label' text' (.inr member)⟩

/-- The replacement keeps the number of words exactly when it replaces no white space. -/
theorem starts_shown_eq_iff {segments : List (Segment α)} (worded : Worded space segments) :
    starts space false (Segment.shown segments) = starts space false (Segment.source segments) ↔
      ∀ label text, .replaced label text ∈ segments → ∀ char ∈ text, space char = false := by
  rw [starts_source worded, ← lost_eq_zero_iff worded]
  omega

end WordCount
