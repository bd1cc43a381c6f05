import Chitragupt.Lib.Text
import Mathlib.Data.List.TakeWhile

/-!
# Blanks around a text

Items that count as blank may stand around a text.  Trimming drops them, and a pattern that
neither starts nor ends with a blank is found in the padded text exactly where it is found in
the text itself; one that starts with a blank may also take it from the padding.
-/

namespace Padding

variable {α : Type*} (blank : α → Bool)

/-- The list starts with an item that is no blank. -/
def startsSolid : List α → Bool
  | [] => false
  | item :: _ => !blank item

/-- The list ends with an item that is no blank. -/
def endsSolid (items : List α) : Bool := startsSolid blank items.reverse

variable {blank} {front back text pattern : List α}

/-! ## Trimming -/

theorem trimBy_padded (frontBlank : ∀ item ∈ front, blank item = true)
    (backBlank : ∀ item ∈ back, blank item = true) :
    Text.trimBy blank (front ++ text ++ back) = Text.trimBy blank text := by
  have backwards : ∀ item ∈ back.reverse, blank item = true := fun item member =>
    backBlank item (List.mem_reverse.mp member)
  rw [Text.trimBy, List.append_assoc, List.dropWhile_append_of_pos frontBlank,
    List.dropWhile_append, Text.trimBy]
  split
  next empty =>
    have none : text.dropWhile blank = [] := List.isEmpty_iff.mp empty
    have noBack : back.dropWhile blank = [] := List.dropWhile_eq_nil_iff.mpr backBlank
    rw [none, noBack]
  next => rw [List.reverse_append, List.dropWhile_append_of_pos backwards]

/-- Nothing is trimmed from a text between solid ends. -/
theorem trimBy_of_solid (starts : startsSolid blank text = true)
    (ends : endsSolid blank text = true) : Text.trimBy blank text = text := by
  have kept : ∀ items : List α, startsSolid blank items = true →
      items.dropWhile blank = items := by
    intro items solid
    cases items with
    | nil => rfl
    | cons item items =>
        rw [startsSolid, Bool.not_eq_true'] at solid
        rw [List.dropWhile_cons_of_neg (by rw [solid]; exact Bool.false_ne_true)]
  rw [Text.trimBy, kept text starts, kept text.reverse ends, List.reverse_reverse]

/-- A text is what trimming leaves of it, with blanks around. -/
theorem exists_padding (blank : α → Bool) (text : List α) :
    ∃ front back, (∀ item ∈ front, blank item = true) ∧ (∀ item ∈ back, blank item = true) ∧
      text = front ++ Text.trimBy blank text ++ back := by
  have taken (items : List α) : ∀ item ∈ items.takeWhile blank, blank item = true :=
    fun _ => List.mem_takeWhile_imp
  refine ⟨text.takeWhile blank, ((text.dropWhile blank).reverse.takeWhile blank).reverse,
    taken text, fun item member => taken _ item (List.mem_reverse.mp member), ?_⟩
  rw [Text.trimBy, List.append_assoc, ← List.reverse_append, List.takeWhile_append_dropWhile,
    List.reverse_reverse, List.takeWhile_append_dropWhile]

theorem trimBy_trimBy (blank : α → Bool) (text : List α) :
    Text.trimBy blank (Text.trimBy blank text) = Text.trimBy blank text := by
  obtain ⟨front, back, frontBlank, backBlank, padded⟩ := exists_padding blank text
  have trimmed : Text.trimBy blank (front ++ Text.trimBy blank text ++ back) = _ :=
    trimBy_padded frontBlank backBlank
  rw [← padded] at trimmed
  exact trimmed.symm

/-! ## Patterns -/

theorem infix_append_left (solid : startsSolid blank pattern = true)
    (frontBlank : ∀ item ∈ front, blank item = true) :
    pattern <:+: front ++ text ↔ pattern <:+: text := by
  induction front with
  | nil => rfl
  | cons item front ih =>
      rw [List.forall_mem_cons] at frontBlank
      rw [List.cons_append, List.infix_cons_iff, ih frontBlank.2, or_iff_right]
      intro found
      cases pattern with
      | nil => cases solid
      | cons first pattern =>
          rw [List.cons_prefix_cons] at found
          rw [startsSolid, found.1, frontBlank.1] at solid
          cases solid

theorem infix_append_right (solid : endsSolid blank pattern = true)
    (backBlank : ∀ item ∈ back, blank item = true) :
    pattern <:+: text ++ back ↔ pattern <:+: text := by
  rw [← List.reverse_infix, List.reverse_append, infix_append_left solid, List.reverse_infix]
  exact fun item member => backBlank item (List.mem_reverse.mp member)

/-- A pattern that starts with one blank takes it from the text or from the padding. -/
theorem cons_infix_append_left {mark : α} (solid : startsSolid blank pattern = true)
    (frontBlank : ∀ item ∈ front, blank item = true) :
    mark :: pattern <:+: front ++ text ↔
      mark :: pattern <:+: text ∨ front.getLast? = some mark ∧ pattern <+: text := by
  induction front with
  | nil => simp
  | cons item front ih =>
      rw [List.forall_mem_cons] at frontBlank
      rw [List.cons_append, List.infix_cons_iff, ih frontBlank.2, List.cons_prefix_cons]
      cases front with
      | nil =>
          rw [List.getLast?_singleton, Option.some_inj, List.getLast?_nil]
          simp [eq_comm, or_comm]
      | cons next front =>
          have other : ¬pattern <+: next :: front ++ text := by
            intro found
            cases pattern with
            | nil => cases solid
            | cons first pattern =>
                rw [List.cons_append, List.cons_prefix_cons] at found
                rw [startsSolid, found.1, frontBlank.2 next List.mem_cons_self] at solid
                cases solid
          rw [List.cons_append] at other
          simp [other]

/-- A pattern that ends with one blank takes it from the text or from the padding. -/
theorem concat_infix_append_right {mark : α} (solid : endsSolid blank pattern = true)
    (backBlank : ∀ item ∈ back, blank item = true) :
    pattern ++ [mark] <:+: text ++ back ↔
      pattern ++ [mark] <:+: text ∨ back.head? = some mark ∧ pattern <:+ text := by
  have backwards : ∀ item ∈ back.reverse, blank item = true := fun item member =>
    backBlank item (List.mem_reverse.mp member)
  have turned (items : List α) :
      pattern ++ [mark] <:+: items ↔ mark :: pattern.reverse <:+: items.reverse := by
    rw [← List.reverse_infix, List.reverse_append, List.reverse_singleton, List.singleton_append]
  rw [turned, turned, List.reverse_append, cons_infix_append_left solid backwards,
    List.getLast?_reverse, List.reverse_prefix]

end Padding
