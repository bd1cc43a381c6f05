import Chitragupt.Ingestion.PiiScrub
import Chitragupt.Lib.RedactedWindows
import Chitragupt.Lib.WordRuns

/-!
# The matches of the PII patterns

The matches of the number patterns have fixed shapes, so that no two of them overlap.  An
email address that is cut at a boundary in front of its `@` is an email address again.
-/

namespace Chitragupt

open Python (isDecimal isSpace isAsciiDigit isAsciiLetter isWordCharacter)
open Regex (headWord lastWord)
open WordRuns (IsRun HasShape Shaped extent wordAt)

variable [Python.CharacterData]

/-! ## Characters and edges of matches -/

/-- A position of a text between a word character and another one. -/
def Edge (text : Text) (position : Nat) : Prop :=
  lastWord isWordCharacter false (text.take position) ≠
    headWord isWordCharacter (text.drop position) false

section Matches

variable {rule : Rule Nat} {text : Text} {span : Span}

theorem edge_start (matched : rule.MatchesAt isWordCharacter text span) :
    Edge text span.start := by
  rcases matched with ⟨before, middle, after, rfl, start, _, matched⟩
  rw [Edge, ← start, List.take_left, List.drop_left, Regex.headWord_append]
  exact (Regex.matches_whole.mp matched).1

theorem edge_stop (matched : rule.MatchesAt isWordCharacter text span) :
    Edge text span.stop := by
  rcases matched with ⟨before, middle, after, rfl, _, stop, matched⟩
  rw [Edge, ← stop, ← List.append_assoc, ← List.length_append, List.take_left, List.drop_left,
    Regex.lastWord_append]
  exact (Regex.matches_whole.mp matched).2.2

omit [Python.CharacterData] in
theorem stop_le_of_matchesAt {isWord : Nat → Bool} (matched : rule.MatchesAt isWord text span) :
    span.stop ≤ text.length := by
  rcases matched with ⟨before, middle, after, rfl, _, stop, _⟩
  rw [List.length_append, List.length_append]
  omega

/-- The characters of a match. -/
theorem exists_allowed {allowed : Nat → Prop} (permitted : rule.body.Over allowed)
    (matched : rule.MatchesAt isWordCharacter text span) {position : Nat}
    (holds : span.Holds position) : ∃ code, text[position]? = some code ∧ allowed code := by
  rcases matched with ⟨before, middle, after, rfl, start, stop, matched⟩
  have lower : before.length ≤ position := start ▸ holds.1
  have upper : position < before.length + middle.length := stop ▸ holds.2
  have bound : position < (before ++ (middle ++ after)).length := by
    rw [List.length_append, List.length_append]
    omega
  have found := List.getElem?_eq_getElem bound
  have inside := Segment.mem_of_getElem? found lower upper
  exact ⟨_, found, permitted.of_mem (Regex.matches_whole.mp matched).2.1 _ inside⟩

end Matches

/-! ## Shapes -/

theorem isWordCharacter_of_isDecimal {code : Nat} (decimal : isDecimal code = true) :
    isWordCharacter code = true := by
  rw [isWordCharacter, Python.CharacterData.isAlnum_of_isDecimal code decimal, Bool.true_or]

theorem isWordCharacter_of_isAsciiDigit {code : Nat} (digit : isAsciiDigit code = true) :
    isWordCharacter code = true := by
  have bounds := digit
  rw [isAsciiDigit, Bool.and_eq_true, decide_eq_true_iff, decide_eq_true_iff] at bounds
  rw [Python.isWordCharacter_of_ascii (by omega), digit, Bool.true_or, Bool.true_or]

omit [Python.CharacterData] in
theorem isAsciiDigit_of_isOneToFive :
    ∀ code, isOneToFive code = true → isAsciiDigit code = true := by
  intro code within
  rw [isOneToFive, Bool.and_eq_true, decide_eq_true_iff, decide_eq_true_iff] at within
  rw [isAsciiDigit, Bool.and_eq_true, decide_eq_true_iff, decide_eq_true_iff]
  omega

theorem isWordCharacter_of_isSeparator {code : Nat} (separator : isSeparator code = true) :
    isWordCharacter code = false := by
  rw [isSeparator, Bool.or_eq_true, Bool.or_eq_true, beq_iff_eq, beq_iff_eq] at separator
  rcases separator with (rfl | rfl) | space
  · rw [Python.isWordCharacter_of_ascii (by decide)]
    rfl
  · rw [Python.isWordCharacter_of_ascii (by decide)]
    rfl
  · have apart : code ≠ 95 := by
      rintro rfl
      exact absurd space (by decide)
    rw [isWordCharacter, Python.CharacterData.isAlnum_of_isSpace code space, Bool.false_or]
    exact beq_false_of_ne apart

/-- Each match of the rule has one of the shapes. -/
def ShapedBy (rule : Rule Nat) (shapes : List (List Nat)) : Prop :=
  ∀ left text right, rule.body.Matches isWordCharacter left text right →
    ∃ shape ∈ shapes, HasShape isWordCharacter shape text

def phoneShapes : List (List Nat) := [[10], [3, 7], [6, 4], [3, 3, 4]]

def ssnShapes : List (List Nat) := [[3, 2, 4]]

def cardShapes : List (List Nat) := [[13], [16]]

theorem isRun_of_times {member : Nat → Bool} {count : Nat} {left right : Bool} {text : Text}
    (word : ∀ code, member code = true → isWordCharacter code = true) (positive : 0 < count)
    (matched : (Regex.times member count).Matches isWordCharacter left text right) :
    IsRun isWordCharacter count text := by
  rw [Regex.matches_times] at matched
  exact ⟨matched.2, positive, fun code member' => word code (matched.1 code member')⟩

omit [Python.CharacterData] in
/-- At most one separator. -/
theorem separator_cases {text : Text}
    (matched : (∀ code ∈ text, isSeparator code = true) ∧ 0 ≤ text.length ∧
      ∀ bound ∈ some 1, text.length ≤ bound) :
    text = [] ∨ ∃ code, text = [code] ∧ isSeparator code = true := by
  have few := matched.2.2 1 rfl
  cases text with
  | nil => exact .inl rfl
  | cons code rest =>
      have none' : rest = [] := List.eq_nil_of_length_eq_zero (by
        rw [List.length_cons] at few
        omega)
      subst none'
      exact .inr ⟨code, rfl, matched.1 code List.mem_cons_self⟩

theorem shapedBy_phone : ShapedBy phone phoneShapes := by
  intro left text right matched
  rcases matched with ⟨area, _, rfl, areaRun, gap, _, rfl, gapMatch, exchange, _, rfl, exchangeRun,
    break', line, rfl, breakMatch, lineRun⟩
  have first := isRun_of_times (fun _ => isWordCharacter_of_isDecimal) (by decide) areaRun
  have second := isRun_of_times (fun _ => isWordCharacter_of_isDecimal) (by decide) exchangeRun
  have third := isRun_of_times (fun _ => isWordCharacter_of_isDecimal) (by decide) lineRun
  rcases separator_cases gapMatch with rfl | ⟨mark, rfl, separator⟩
  · rcases separator_cases breakMatch with rfl | ⟨other, rfl, separator⟩
    · exact ⟨[10], by decide, first.append (second.append third)⟩
    · refine ⟨[6, 4], by decide, area ++ exchange, other, line, ?_, first.append second,
        isWordCharacter_of_isSeparator separator, third⟩
      simp only [List.nil_append, List.append_assoc, List.cons_append]
  · rcases separator_cases breakMatch with rfl | ⟨other, rfl, separator'⟩
    · exact ⟨[3, 7], by decide, area, mark, exchange ++ line, rfl, first,
        isWordCharacter_of_isSeparator separator, second.append third⟩
    · exact ⟨[3, 3, 4], by decide, area, mark, _, rfl, first,
        isWordCharacter_of_isSeparator separator, exchange, other, line, rfl, second,
        isWordCharacter_of_isSeparator separator', third⟩

theorem eq_singleton_of_literal {code : Nat} {left right : Bool}
    {text : Text} (matched : (literal code).Matches isWordCharacter left text right) :
    text = [code] := by
  rw [literal, Regex.matches_times] at matched
  rcases List.length_eq_one_iff.mp matched.2 with ⟨char, rfl⟩
  rw [beq_iff_eq.mp (matched.1 char List.mem_cons_self)]

theorem shapedBy_ssn : ShapedBy ssn ssnShapes := by
  intro left text right matched
  rcases matched with ⟨area, _, rfl, areaRun, gap, _, rfl, gapMatch, group, _, rfl, groupRun,
    break', serial, rfl, breakMatch, serialRun⟩
  rcases eq_singleton_of_literal gapMatch with rfl
  rcases eq_singleton_of_literal breakMatch with rfl
  have dash : isWordCharacter 45 = false := isWordCharacter_of_isSeparator rfl
  exact ⟨[3, 2, 4], by decide, area, 45, _, rfl,
    isRun_of_times (fun _ => isWordCharacter_of_isDecimal) (by decide) areaRun, dash, group, 45,
    serial, rfl, isRun_of_times (fun _ => isWordCharacter_of_isDecimal) (by decide) groupRun, dash,
    isRun_of_times (fun _ => isWordCharacter_of_isDecimal) (by decide) serialRun⟩

theorem isRun_of_literal {code : Nat} {left right : Bool} {text : Text}
    (digit : isAsciiDigit code = true)
    (matched : (literal code).Matches isWordCharacter left text right) :
    IsRun isWordCharacter 1 text := by
  rcases eq_singleton_of_literal matched with rfl
  exact ⟨rfl, Nat.one_pos, List.forall_mem_singleton.mpr (isWordCharacter_of_isAsciiDigit digit)⟩

theorem shapedBy_card : ShapedBy card cardShapes := by
  intro left text right matched
  have digits : ∀ {count : Nat} {left right : Bool} {text : Text}, 0 < count →
      (Regex.times isAsciiDigit count).Matches isWordCharacter left text right →
        IsRun isWordCharacter count text :=
    fun positive => isRun_of_times (fun _ => isWordCharacter_of_isAsciiDigit) positive
  rcases matched with ⟨head, _, rfl, four, number, last, rfl, numberRun, more⟩ |
    ⟨head, _, rfl, five, second, number, rfl, secondRun, numberRun⟩
  · have start := isRun_of_literal rfl four
    have middle := digits (by decide) numberRun
    cases more with
    | inl extra =>
        exact ⟨[16], by decide, start.append (middle.append (digits (by decide) extra))⟩
    | inr empty =>
        subst empty
        rw [List.append_nil]
        exact ⟨[13], by decide, start.append middle⟩
  · have small : ∀ code, isOneToFive code = true → isWordCharacter code = true := fun code within =>
      isWordCharacter_of_isAsciiDigit (isAsciiDigit_of_isOneToFive code within)
    exact ⟨[16], by decide, (isRun_of_literal rfl five).append
      ((isRun_of_times small (by decide) secondRun).append (digits (by decide) numberRun))⟩

theorem ShapedBy.wordEdged {rule : Rule Nat} {shapes : List (List Nat)}
    (shapedBy : ShapedBy rule shapes) : rule.WordEdged isWordCharacter := by
  intro left text right matched
  rcases shapedBy _ _ _ (Regex.matches_whole.mp matched).2.1 with ⟨shape, _, hasShape⟩
  exact ⟨hasShape.headWord_eq_true, hasShape.lastWord_eq_true⟩

/-- The first and the last character of a match with word edges. -/
theorem wordAt_edges {rule : Rule Nat} {text : Text} {span : Span}
    (edged : rule.WordEdged isWordCharacter) (matched : rule.MatchesAt isWordCharacter text span) :
    span.start < span.stop ∧ wordAt isWordCharacter text span.start = true ∧
      wordAt isWordCharacter text (span.stop - 1) = true := by
  rcases matched with ⟨before, middle, after, rfl, start, stop, matched⟩
  rcases edged _ _ _ matched with ⟨begins, ends⟩
  have some' : 0 < middle.length := by
    rw [List.length_pos_iff]
    rintro rfl
    cases begins false
  refine ⟨by omega, ?_, ?_⟩
  · rw [← start, WordRuns.wordAt_length, Regex.headWord_append, begins]
  · rw [← List.append_assoc, WordRuns.wordAt_last, Regex.lastWord_append, ends]
    rw [List.length_append]
    omega

/-! ## Overlapping matches -/

section Overlaps

variable {rule : Rule Nat} {shapes : List (List Nat)} {text : Text} {span other : Span}

/-- The positions of a shaped match. -/
theorem exists_shaped (shapedBy : ShapedBy rule shapes)
    (matched : rule.MatchesAt isWordCharacter text span) :
    ∃ shape ∈ shapes, Shaped (wordAt isWordCharacter text) span.start shape ∧
      span = ⟨span.start, span.start + extent shape⟩ := by
  rcases matched with ⟨before, middle, after, rfl, start, stop, matched⟩
  rcases Regex.matches_whole.mp matched with ⟨begins, body, ends⟩
  rcases shapedBy _ _ _ body with ⟨shape, member, hasShape⟩
  rw [hasShape.headWord_eq_true] at begins
  rw [hasShape.lastWord_eq_true] at ends
  have left := Bool.eq_false_iff.mpr begins
  have right := Bool.eq_false_iff.mpr ends.symm
  refine ⟨shape, member, start ▸ hasShape.shaped left right, ?_⟩
  rw [← hasShape.length_eq, ← start, stop, start]

/-- Matches that meet have comparable shapes. -/
theorem comparable_of_matchesAt {rule' : Rule Nat} {shapes' : List (List Nat)}
    (shapedBy : ShapedBy rule shapes) (shapedBy' : ShapedBy rule' shapes')
    (here : rule.MatchesAt isWordCharacter text span)
    (there : rule'.MatchesAt isWordCharacter text other) (meets : span.Meets other) :
    ∃ shape ∈ shapes, ∃ shape' ∈ shapes',
      span = ⟨span.start, span.start + extent shape⟩ ∧
      other = ⟨other.start, other.start + extent shape'⟩ ∧
      ((∃ count < shape.length, (shape.drop count <+: shape' ∨ shape' <+: shape.drop count) ∧
          (count = 0 → span.start = other.start)) ∨
        ∃ count < shape'.length, (shape'.drop count <+: shape ∨ shape <+: shape'.drop count) ∧
          (count = 0 → other.start = span.start)) := by
  rcases exists_shaped shapedBy here with ⟨shape, member, shaped, same⟩
  rcases exists_shaped shapedBy' there with ⟨shape', member', shaped', same'⟩
  refine ⟨shape, member, shape', member', same, same', ?_⟩
  apply WordRuns.comparable_of_meets shaped shaped'
  rwa [← same, ← same']

/-- Phone numbers that meet are the same. -/
theorem eq_of_meets_phone (here : phone.MatchesAt isWordCharacter text span)
    (there : phone.MatchesAt isWordCharacter text other) (meets : span.Meets other) :
    span = other := by
  have alike : ∀ shape ∈ phoneShapes, ∀ shape' ∈ phoneShapes, ∀ count < shape.length,
      (shape.drop count <+: shape' ∨ shape' <+: shape.drop count) →
        count = 0 ∧ shape = shape' := by decide
  rcases comparable_of_matchesAt shapedBy_phone shapedBy_phone here there meets with
    ⟨shape, member, shape', member', same, same', comparable | comparable⟩
  · rcases comparable with ⟨count, few, comparable, first⟩
    rcases alike shape member shape' member' count few comparable with ⟨zero, rfl⟩
    rw [same, same', first zero]
  · rcases comparable with ⟨count, few, comparable, first⟩
    rcases alike shape' member' shape member count few comparable with ⟨zero, rfl⟩
    rw [same, same', first zero]

/-- No phone number meets a match of other shapes. -/
theorem not_meets_phone (shapedBy : ShapedBy rule shapes)
    (apart : ∀ shape ∈ phoneShapes, ∀ shape' ∈ shapes,
      (∀ count < shape.length, ¬(shape.drop count <+: shape' ∨ shape' <+: shape.drop count)) ∧
        ∀ count < shape'.length, ¬(shape'.drop count <+: shape ∨ shape <+: shape'.drop count))
    (here : phone.MatchesAt isWordCharacter text span)
    (there : rule.MatchesAt isWordCharacter text other) : ¬span.Meets other := by
  intro meets
  rcases comparable_of_matchesAt shapedBy_phone shapedBy here there meets with
    ⟨shape, member, shape', member', _, _, comparable | comparable⟩
  · rcases comparable with ⟨count, few, comparable, _⟩
    exact (apart shape member shape' member').1 count few comparable
  · rcases comparable with ⟨count, few, comparable, _⟩
    exact (apart shape member shape' member').2 count few comparable

theorem not_meets_ssn (here : phone.MatchesAt isWordCharacter text span)
    (there : ssn.MatchesAt isWordCharacter text other) : ¬span.Meets other :=
  not_meets_phone shapedBy_ssn (by decide) here there

theorem not_meets_card (here : phone.MatchesAt isWordCharacter text span)
    (there : card.MatchesAt isWordCharacter text other) : ¬span.Meets other :=
  not_meets_phone shapedBy_card (by decide) here there

end Overlaps

/-! ## Email addresses -/

/-- A name, an `@`, and more that ends with a letter; the name may be cut short. -/
theorem email_body {left right : Bool} {text : Text}
    (matched : email.body.Matches isWordCharacter left text right) :
    ∃ name rest last, text = name ++ 64 :: (rest ++ [last]) ∧ isAsciiLetter last = true ∧
      ∀ front back, name = front ++ back → back ≠ [] → ∀ before after,
        email.body.Matches isWordCharacter before (back ++ 64 :: (rest ++ [last])) after := by
  rcases matched with ⟨name, behind, rfl, ⟨nameChars, _, _⟩, tail⟩
  have parts := tail
  rcases parts with ⟨sign, _, rfl, signMatch, domain, _, rfl, _, dot, tld, rfl, _, letters, two, _⟩
  rcases eq_singleton_of_literal signMatch with rfl
  rcases List.eq_nil_or_concat tld with rfl | ⟨early, last, rfl⟩
  · cases two
  · have same : [64] ++ (domain ++ (dot ++ early.concat last)) =
        64 :: ((domain ++ (dot ++ early)) ++ [last]) := by
      simp only [List.concat_eq_append, List.append_assoc, List.cons_append, List.nil_append]
    rw [same] at tail ⊢
    refine ⟨name, domain ++ (dot ++ early), last, rfl, letters last (by simp), ?_⟩
    rintro front back rfl nonempty before after
    rw [List.forall_mem_append] at nameChars
    refine ⟨back, _, rfl, ⟨nameChars.2, List.length_pos_iff.mpr nonempty, ?_⟩, ?_⟩
    · intro bound none'
      cases none'
    · have plain : (Regex.seq (literal 64) <| .seq (.chars isDomainCharacter 1 none) <|
          .seq (literal 46) <| .chars isAsciiLetter 2 none).Plain :=
        ⟨trivial, trivial, trivial, trivial⟩
      exact plain.matches_congr _ _ tail

/-- An email address has an `@` and ends with a letter behind it.  From any boundary in front of
the `@` on, it is an email address. -/
theorem email_parts {text : Text} {span : Span}
    (matched : email.MatchesAt isWordCharacter text span) :
    ∃ position, span.start ≤ position ∧ position + 1 < span.stop ∧ text[position]? = some 64 ∧
      (∃ code, text[span.stop - 1]? = some code ∧ isAsciiLetter code = true) ∧
      ∀ start, span.start ≤ start → start < position → Edge text start →
        email.MatchesAt isWordCharacter text ⟨start, span.stop⟩ := by
  rcases matched with ⟨before, middle, after, rfl, start, stop, matched⟩
  rcases Regex.matches_whole.mp matched with ⟨_, body, ends⟩
  rcases email_body body with ⟨name, rest, last, rfl, letter, cut⟩
  rw [List.length_append, List.length_cons, List.length_append, List.length_singleton] at stop
  refine ⟨before.length + name.length, by omega, by omega, ?_, ⟨last, ?_, letter⟩, ?_⟩
  · rw [List.append_assoc, ← List.append_assoc, ← List.length_append,
      List.getElem?_append_right le_rfl, Nat.sub_self]
    rfl
  · have same : before ++ (name ++ 64 :: (rest ++ [last]) ++ after) =
        (before ++ (name ++ 64 :: rest)) ++ (last :: after) := by
      simp only [List.append_assoc, List.cons_append, List.nil_append]
    have length : span.stop - 1 = (before ++ (name ++ 64 :: rest)).length := by
      rw [List.length_append, List.length_append, List.length_cons]
      omega
    rw [same, length, List.getElem?_append_right le_rfl, Nat.sub_self]
    rfl
  · intro first lower upper edge
    rcases Nat.exists_eq_add_of_le (start ▸ lower) with ⟨offset, rfl⟩
    have split : name = name.take offset ++ name.drop offset :=
      (List.take_append_drop offset name).symm
    have nonempty : name.drop offset ≠ [] := by
      rw [Ne, List.drop_eq_nil_iff]
      omega
    have short : (name.take offset).length = offset := List.length_take_of_le (by omega)
    have shorter := cut _ _ split nonempty
    generalize name.take offset = front at *
    generalize name.drop offset = back at *
    subst split
    rw [List.length_append, short] at stop
    have whole : before ++ (front ++ back ++ 64 :: (rest ++ [last]) ++ after) =
        (before ++ front) ++ ((back ++ 64 :: (rest ++ [last])) ++ after) := by
      simp only [List.append_assoc]
    have length : (before ++ front).length = before.length + offset := by
      rw [List.length_append, short]
    rw [whole] at edge ⊢
    rw [Edge, ← length, List.take_left, List.drop_left, Regex.headWord_append] at edge
    refine ⟨before ++ front, _, after, rfl, length, ?_, ?_⟩
    · rw [length]
      simp only [List.length_append, List.length_cons, List.length_nil]
      omega
    · refine Regex.matches_whole.mpr ⟨edge, shorter _ _, ?_⟩
      rw [Regex.lastWord_append false before front]
      rw [List.append_assoc, Regex.lastWord_append] at ends
      exact ends

/-! ## Characters that tell the patterns apart -/

omit [Python.CharacterData] in
/-- A class without `@` and the letters. -/
theorem not_address {member : Nat → Bool}
    (outside : ∀ code < 123, code = 64 ∨ isAsciiLetter code = true → member code = false) :
    ∀ code, member code = true → ¬(code = 64 ∨ isAsciiLetter code = true) := by
  intro code within address
  have bound : code < 123 := by
    rcases address with rfl | letter
    · decide
    · rw [isAsciiLetter, Bool.or_eq_true, Bool.and_eq_true, Bool.and_eq_true] at letter
      simp only [decide_eq_true_eq] at letter
      omega
  rw [outside code bound address] at within
  cases within

omit [Python.CharacterData] in
/-- A phone number has no `@` and no letters. -/
theorem over_phone : phone.body.Over fun code => ¬(code = 64 ∨ isAsciiLetter code = true) :=
  have digits := not_address (by decide : ∀ code < 123, code = 64 ∨ isAsciiLetter code = true →
    isDecimal code = false)
  have separators := not_address (by decide : ∀ code < 123, code = 64 ∨ isAsciiLetter code = true →
    isSeparator code = false)
  ⟨digits, separators, digits, separators, digits⟩

theorem isSpace_of_isWordCharacter {code : Nat} (word : isWordCharacter code = true) :
    isSpace code = false := by
  cases space : isSpace code with
  | false => rfl
  | true =>
      rw [isWordCharacter_of_isSeparator (by rw [isSeparator, space, Bool.or_true])] at word
      cases word

omit [Python.CharacterData] in
theorem isSpace_of_isLocalCharacter :
    ∀ code, isLocalCharacter code = true → isSpace code = false := by
  have small : ∀ code < 123, isLocalCharacter code = true → isSpace code = false := by decide
  intro code within
  apply small code _ within
  simp only [isLocalCharacter, isAsciiLetter, isAsciiDigit, Bool.or_eq_true, Bool.and_eq_true,
    decide_eq_true_eq, beq_iff_eq] at within
  omega

omit [Python.CharacterData] in
theorem isLocalCharacter_of_isDomainCharacter :
    ∀ code, isDomainCharacter code = true → isLocalCharacter code = true := by
  intro code within
  rw [isDomainCharacter, Bool.or_eq_true, Bool.or_eq_true, beq_iff_eq, beq_iff_eq] at within
  rcases within with (letter | rfl) | rfl
  · rw [isLocalCharacter, letter]
    rfl
  · rfl
  · rfl

omit [Python.CharacterData] in
/-- One character that is not white space. -/
theorem isSpace_of_beq {code : Nat} (solid : isSpace code = false) :
    ∀ other, (other == code) = true → isSpace other = false := by
  intro other same
  rw [beq_iff_eq.mp same, solid]

theorem isSpace_of_isDecimal : ∀ code, isDecimal code = true → isSpace code = false :=
  fun _ decimal => isSpace_of_isWordCharacter (isWordCharacter_of_isDecimal decimal)

theorem isSpace_of_isAsciiDigit : ∀ code, isAsciiDigit code = true → isSpace code = false :=
  fun _ digit => isSpace_of_isWordCharacter (isWordCharacter_of_isAsciiDigit digit)

omit [Python.CharacterData] in
/-- An email address has no white space. -/
theorem solid_email : email.body.Over fun code => isSpace code = false := by
  refine ⟨isSpace_of_isLocalCharacter, isSpace_of_beq rfl, ?_, isSpace_of_beq rfl, ?_⟩
  · intro code within
    exact isSpace_of_isLocalCharacter code (isLocalCharacter_of_isDomainCharacter code within)
  · intro code letter
    apply isSpace_of_isLocalCharacter
    rw [isLocalCharacter, letter]
    rfl

theorem solid_ssn : ssn.body.Over fun code => isSpace code = false :=
  ⟨isSpace_of_isDecimal, isSpace_of_beq rfl, isSpace_of_isDecimal, isSpace_of_beq rfl,
    isSpace_of_isDecimal⟩

theorem solid_card : card.body.Over fun code => isSpace code = false := by
  refine ⟨⟨isSpace_of_beq rfl, isSpace_of_isAsciiDigit, isSpace_of_isAsciiDigit⟩,
    isSpace_of_beq rfl, ?_, isSpace_of_isAsciiDigit⟩
  intro code within
  exact isSpace_of_isAsciiDigit code (isAsciiDigit_of_isOneToFive code within)

end Chitragupt
