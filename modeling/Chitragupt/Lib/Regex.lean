import Mathlib.Data.List.Basic
import Mathlib.Data.List.TakeWhile

/-!
# Regular expressions with word boundaries

Patterns over an arbitrary alphabet, with repeated character classes and the boundary between
word characters and others.  What a pattern matches depends on the characters next to the
match, so a match is read between two contexts.  The search goes through the matches at a
position in the order in which a backtracking engine tries them.
-/

inductive Regex (α : Type*) where
  | boundary
  /-- A run of characters of a class, of a least and perhaps a largest length. -/
  | chars (member : α → Bool) (least : Nat) (most : Option Nat)
  | opt (body : Regex α)
  | seq (first second : Regex α)
  | alt (first second : Regex α)

namespace Regex

variable {α β : Type*}

/-! ## Contexts -/

section Contexts

variable (isWord : α → Bool)

/-- Whether a text starts with a word character; an empty text is followed by `after`. -/
def headWord : List α → Bool → Bool
  | [], after => after
  | char :: _, _ => isWord char

/-- Whether a text ends with a word character; an empty text follows `before`. -/
def lastWord : Bool → List α → Bool
  | before, [] => before
  | _, char :: rest => lastWord (isWord char) rest

variable {isWord}

theorem headWord_append (front back : List α) (after : Bool) :
    headWord isWord (front ++ back) after = headWord isWord front (headWord isWord back after) := by
  cases front with
  | nil => rfl
  | cons char rest => rfl

theorem lastWord_append (before : Bool) (front back : List α) :
    lastWord isWord before (front ++ back) =
      lastWord isWord (lastWord isWord before front) back := by
  induction front generalizing before with
  | nil => rfl
  | cons char rest ih => exact ih (isWord char)

theorem headWord_of_ne_nil {text : List α} (some' : text ≠ []) (after other : Bool) :
    headWord isWord text after = headWord isWord text other := by
  cases text with
  | nil => exact absurd rfl some'
  | cons char rest => rfl

theorem lastWord_of_ne_nil {text : List α} (some' : text ≠ []) (before other : Bool) :
    lastWord isWord before text = lastWord isWord other text := by
  cases text with
  | nil => exact absurd rfl some'
  | cons char rest => rfl

theorem headWord_map (code : β → α) (text : List β) (after : Bool) :
    headWord isWord (text.map code) after = headWord (isWord ∘ code) text after := by
  cases text with
  | nil => rfl
  | cons char rest => rfl

theorem lastWord_map (code : β → α) (before : Bool) (text : List β) :
    lastWord isWord before (text.map code) = lastWord (isWord ∘ code) before text := by
  induction text generalizing before with
  | nil => rfl
  | cons char rest ih => exact ih _

end Contexts

/-! ## Matches -/

section Matches

variable (isWord : α → Bool)

/-- A pattern matches a text between two contexts. -/
def Matches : Regex α → Bool → List α → Bool → Prop
  | .boundary, left, text, right => text = [] ∧ left ≠ right
  | .chars member least most, _, text, _ =>
      (∀ char ∈ text, member char = true) ∧ least ≤ text.length ∧
        ∀ bound ∈ most, text.length ≤ bound
  | .opt body, left, text, right => Matches body left text right ∨ text = []
  | .seq first second, left, text, right =>
      ∃ front back, text = front ++ back ∧
        Matches first left front (headWord isWord back right) ∧
        Matches second (lastWord isWord left front) back right
  | .alt first second, left, text, right =>
      Matches first left text right ∨ Matches second left text right

/-- The matches at the start of a text, in the order in which they are tried: the match and
what follows it. -/
def splits : Regex α → Bool → List α → List (List α × List α)
  | .boundary, left, text => if left ≠ headWord isWord text false then [([], text)] else []
  | .chars member least most, _, text =>
      let run := (text.takeWhile member).length
      let longest := (most.map (min run)).getD run
      (List.range' least (longest + 1 - least)).reverse.map fun count =>
        (text.take count, text.drop count)
  | .opt body, left, text => splits body left text ++ [([], text)]
  | .seq first second, left, text =>
      (splits first left text).flatMap fun (front, rest) =>
        (splits second (lastWord isWord left front) rest).map fun (back, rest) =>
          (front ++ back, rest)
  | .alt first second, left, text => splits first left text ++ splits second left text

variable {isWord}

theorem length_le_takeWhile_iff {member : α → Bool} {front back : List α} :
    front.length ≤ ((front ++ back).takeWhile member).length ↔
      ∀ char ∈ front, member char = true := by
  induction front with
  | nil => simp
  | cons char rest ih =>
      rw [List.cons_append, List.takeWhile_cons, List.forall_mem_cons]
      cases here : member char with
      | false => simp
      | true => simpa using ih

theorem mem_splits_chars_iff {member : α → Bool} {least : Nat} {most : Option Nat} {left : Bool}
    {text front rest : List α} :
    (front, rest) ∈ (chars member least most).splits isWord left text ↔
      text = front ++ rest ∧
        (chars member least most).Matches isWord left front (headWord isWord rest false) := by
  rw [splits, Matches, List.mem_map]
  have bounded : ∀ run count : Nat, count ≤ (most.map (min run)).getD run ↔
      count ≤ run ∧ ∀ bound ∈ most, count ≤ bound := by
    intro run count
    cases most with
    | none => simp
    | some bound =>
        rw [Option.map_some, Option.getD_some, Nat.le_min]
        simp
  constructor
  · rintro ⟨count, within, same⟩
    rw [List.mem_reverse, List.mem_range'_1] at within
    rcases Prod.mk.inj same with ⟨rfl, rfl⟩
    have bounds := (bounded (text.takeWhile member).length count).mp (by omega)
    have shorter : (text.takeWhile member).length ≤ text.length :=
      (List.takeWhile_prefix member).length_le
    have length : (text.take count).length = count := List.length_take_of_le (by omega)
    refine ⟨(List.take_append_drop count text).symm, ?_, by omega, ?_⟩
    · rw [← @length_le_takeWhile_iff α member _ (text.drop count), List.take_append_drop]
      omega
    · rw [length]
      exact bounds.2
  · rintro ⟨rfl, all, enough, few⟩
    have run := (@length_le_takeWhile_iff α member front rest).mpr all
    have longest := (bounded _ _).mpr ⟨run, few⟩
    refine ⟨front.length, ?_, ?_⟩
    · rw [List.mem_reverse, List.mem_range'_1]
      omega
    · rw [List.take_left, List.drop_left]

/-- The search finds exactly the matches. -/
theorem mem_splits_iff {pattern : Regex α} {left : Bool} {text front rest : List α} :
    (front, rest) ∈ pattern.splits isWord left text ↔
      text = front ++ rest ∧ pattern.Matches isWord left front (headWord isWord rest false) := by
  induction pattern generalizing left text front rest with
  | boundary =>
      rw [splits, Matches]
      split
      next edge =>
        rw [List.mem_singleton, Prod.mk.injEq]
        constructor
        · rintro ⟨rfl, rfl⟩
          exact ⟨rfl, rfl, edge⟩
        · rintro ⟨rfl, rfl, _⟩
          exact ⟨rfl, rfl⟩
      next inside =>
        constructor
        · intro member
          cases member
        · rintro ⟨rfl, rfl, edge⟩
          exact absurd edge inside
  | chars member least most => exact mem_splits_chars_iff
  | opt body ih =>
      rw [splits, Matches, List.mem_append, ih, List.mem_singleton, Prod.mk.injEq, and_or_left]
      refine or_congr_right ⟨?_, ?_⟩
      · rintro ⟨rfl, rfl⟩
        exact ⟨rfl, rfl⟩
      · rintro ⟨rfl, rfl⟩
        exact ⟨rfl, rfl⟩
  | seq first second firstIh secondIh =>
      rw [splits, Matches, List.mem_flatMap]
      constructor
      · rintro ⟨⟨start, middle⟩, begins, follows⟩
        rcases List.mem_map.mp follows with ⟨⟨back, last⟩, ends, same⟩
        rcases Prod.mk.inj same with ⟨rfl, rfl⟩
        rcases firstIh.mp begins with ⟨rfl, matched⟩
        rcases secondIh.mp ends with ⟨rfl, other⟩
        rw [headWord_append] at matched
        exact ⟨(List.append_assoc _ _ _).symm, start, back, rfl, matched, other⟩
      · rintro ⟨rfl, start, back, rfl, matched, other⟩
        refine ⟨(start, back ++ rest), ?_, List.mem_map.mpr ⟨(back, rest), ?_, rfl⟩⟩
        · rw [firstIh, headWord_append]
          exact ⟨List.append_assoc _ _ _, matched⟩
        · exact secondIh.mpr ⟨rfl, other⟩
  | alt first second firstIh secondIh =>
      rw [splits, Matches, List.mem_append, firstIh, secondIh, and_or_left]

/-- A pattern whose matches begin and end at a boundary. -/
def whole (body : Regex α) : Regex α := .seq .boundary (.seq body .boundary)

theorem matches_whole {body : Regex α} {left right : Bool} {text : List α} :
    body.whole.Matches isWord left text right ↔
      left ≠ headWord isWord text right ∧ body.Matches isWord left text right ∧
        lastWord isWord left text ≠ right := by
  rw [whole, Matches]
  constructor
  · rintro ⟨_, _, rfl, ⟨rfl, begins⟩, front, _, rfl, matched, rfl, ends⟩
    rw [List.nil_append, List.append_nil]
    rw [List.append_nil] at begins
    exact ⟨begins, matched, ends⟩
  · rintro ⟨begins, matched, ends⟩
    refine ⟨[], text, rfl, ⟨rfl, begins⟩, text, [], ?_, matched, rfl, ends⟩
    rw [List.append_nil]

/-- Exactly `count` characters of a class. -/
def times (member : α → Bool) (count : Nat) : Regex α := .chars member count (some count)

theorem matches_times {member : α → Bool} {count : Nat} {left right : Bool} {text : List α} :
    (times member count).Matches isWord left text right ↔
      (∀ char ∈ text, member char = true) ∧ text.length = count := by
  rw [times, Matches]
  refine and_congr_right fun _ => ⟨?_, ?_⟩
  · intro bounds
    exact le_antisymm (bounds.2 count rfl) bounds.1
  · rintro rfl
    exact ⟨le_refl _, fun bound same => (Option.some.inj same).le⟩

end Matches

/-! ## Characters of matches -/

/-- All classes of a pattern have allowed characters only. -/
def Over (allowed : α → Prop) : Regex α → Prop
  | .boundary => True
  | .chars member _ _ => ∀ char, member char = true → allowed char
  | .opt body => Over allowed body
  | .seq first second => Over allowed first ∧ Over allowed second
  | .alt first second => Over allowed first ∧ Over allowed second

/-- A class that every match goes through has wanted characters only. -/
def Needs (wanted : α → Prop) : Regex α → Prop
  | .boundary => False
  | .chars member least _ => 0 < least ∧ ∀ char, member char = true → wanted char
  | .opt _ => False
  | .seq first second => Needs wanted first ∨ Needs wanted second
  | .alt first second => Needs wanted first ∧ Needs wanted second

section Characters

variable {isWord : α → Bool} {pattern : Regex α} {left right : Bool} {text : List α}

theorem Over.of_mem {allowed : α → Prop} (permitted : pattern.Over allowed)
    (matched : pattern.Matches isWord left text right) : ∀ char ∈ text, allowed char := by
  induction pattern generalizing left text right with
  | boundary =>
      rw [matched.1]
      exact List.forall_mem_nil _
  | chars member least most => exact fun char within => permitted char (matched.1 char within)
  | opt body ih =>
      cases matched with
      | inl matched => exact ih permitted matched
      | inr empty =>
          rw [empty]
          exact List.forall_mem_nil _
  | seq first second firstIh secondIh =>
      rcases matched with ⟨front, back, rfl, begins, ends⟩
      rw [List.forall_mem_append]
      exact ⟨firstIh permitted.1 begins, secondIh permitted.2 ends⟩
  | alt first second firstIh secondIh =>
      exact matched.elim (firstIh permitted.1) (secondIh permitted.2)

theorem Needs.exists_mem {wanted : α → Prop} (needs : pattern.Needs wanted)
    (matched : pattern.Matches isWord left text right) : ∃ char ∈ text, wanted char := by
  induction pattern generalizing left text right with
  | boundary => cases needs
  | chars member least most =>
      rcases List.exists_mem_of_length_pos (needs.1.trans_le matched.2.1) with ⟨char, within⟩
      exact ⟨char, within, needs.2 char (matched.1 char within)⟩
  | opt body ih => cases needs
  | seq first second firstIh secondIh =>
      rcases matched with ⟨front, back, rfl, begins, ends⟩
      cases needs with
      | inl early =>
          rcases firstIh early begins with ⟨char, within, holds⟩
          exact ⟨char, List.mem_append_left _ within, holds⟩
      | inr late =>
          rcases secondIh late ends with ⟨char, within, holds⟩
          exact ⟨char, List.mem_append_right _ within, holds⟩
  | alt first second firstIh secondIh =>
      exact matched.elim (firstIh needs.1) (secondIh needs.2)

end Characters

/-- A pattern without boundaries inside. -/
def Plain : Regex α → Prop
  | .boundary => False
  | .chars _ _ _ => True
  | .opt body => Plain body
  | .seq first second => Plain first ∧ Plain second
  | .alt first second => Plain first ∧ Plain second

/-- The context plays no part for a plain pattern. -/
theorem Plain.matches_congr {isWord : α → Bool} {pattern : Regex α} (plain : pattern.Plain)
    {left right : Bool} {text : List α} (before after : Bool)
    (matched : pattern.Matches isWord left text right) :
    pattern.Matches isWord before text after := by
  induction pattern generalizing left right before after text with
  | boundary => cases plain
  | chars member least most => exact matched
  | opt body ih => exact matched.imp_left (ih plain before after)
  | seq first second firstIh secondIh =>
      rcases matched with ⟨front, back, same, begins, ends⟩
      exact ⟨front, back, same, firstIh plain.1 _ _ begins, secondIh plain.2 _ _ ends⟩
  | alt first second firstIh secondIh =>
      exact matched.imp (firstIh plain.1 before after) (secondIh plain.2 before after)

/-! ## Relabelled alphabets -/

/-- The same pattern over characters that carry more data. -/
def comap (code : β → α) : Regex α → Regex β
  | .boundary => .boundary
  | .chars member least most => .chars (member ∘ code) least most
  | .opt body => .opt (comap code body)
  | .seq first second => .seq (comap code first) (comap code second)
  | .alt first second => .alt (comap code first) (comap code second)

section Comap

variable {isWord : α → Bool} (code : β → α)

theorem matches_comap {pattern : Regex α} {left right : Bool} {text : List β} :
    (pattern.comap code).Matches (isWord ∘ code) left text right ↔
      pattern.Matches isWord left (text.map code) right := by
  induction pattern generalizing left text right with
  | boundary => simp [comap, Matches]
  | chars member least most => simp [comap, Matches]
  | opt body ih => simp [comap, Matches, ih]
  | seq first second firstIh secondIh =>
      simp only [comap, Matches, firstIh, secondIh]
      constructor
      · rintro ⟨front, back, rfl, matched, other⟩
        rw [← headWord_map] at matched
        rw [← lastWord_map] at other
        exact ⟨_, _, List.map_append, matched, other⟩
      · rintro ⟨front, back, same, matched, other⟩
        rcases List.map_eq_append_iff.mp same with ⟨front, back, rfl, rfl, rfl⟩
        rw [headWord_map] at matched
        rw [lastWord_map] at other
        exact ⟨_, _, rfl, matched, other⟩
  | alt first second firstIh secondIh => simp [comap, Matches, firstIh, secondIh]

theorem splits_comap (pattern : Regex α) (left : Bool) (text : List β) :
    ((pattern.comap code).splits (isWord ∘ code) left text).map
        (Prod.map (List.map code) (List.map code)) =
      pattern.splits isWord left (text.map code) := by
  induction pattern generalizing left text with
  | boundary =>
      rw [comap, splits, splits, headWord_map]
      split
      next => rfl
      next => rfl
  | chars member least most =>
      rw [comap, splits, splits, List.takeWhile_map, List.length_map, List.map_map]
      apply List.map_congr_left
      intro count _
      simp
  | opt body ih => simp [comap, splits, ih]
  | seq first second firstIh secondIh =>
      rw [comap, splits, splits, ← firstIh, List.map_flatMap, List.flatMap_map]
      congr 1
      funext ⟨front, rest⟩
      dsimp only [Prod.map]
      rw [lastWord_map, ← secondIh, List.map_map, List.map_map]
      congr 1
      funext other
      simp
  | alt first second firstIh secondIh => simp [comap, splits, firstIh, secondIh]

end Comap

end Regex
