import Chitragupt.Lib.Characters
import Chitragupt.Lib.Redaction

/-!
# The PII scrubber

Four patterns are replaced one after the other, each in the text that the one before has left.
-/

namespace Chitragupt

open Python (isDecimal isSpace isAsciiDigit isAsciiLetter isWordCharacter)

/-! ## The patterns -/

/-- `[A-Za-z0-9._%+-]`. -/
def isLocalCharacter (code : Nat) : Bool :=
  isAsciiLetter code || isAsciiDigit code || code == 46 || code == 95 || code == 37 ||
    code == 43 || code == 45

/-- `[A-Za-z0-9.-]`. -/
def isDomainCharacter (code : Nat) : Bool :=
  isAsciiLetter code || isAsciiDigit code || code == 46 || code == 45

/-- `[-.\s]`. -/
def isSeparator (code : Nat) : Bool := code == 45 || code == 46 || isSpace code

/-- `[1-5]`. -/
def isOneToFive (code : Nat) : Bool := 49 ≤ code && code ≤ 53

/-- One given character. -/
def literal (code : Nat) : Regex Nat := .times (· == code) 1

def email : Rule Nat where
  body := .seq (.chars isLocalCharacter 1 none) <| .seq (literal 64) <|
    .seq (.chars isDomainCharacter 1 none) <| .seq (literal 46) <| .chars isAsciiLetter 2 none
  label := Text.ofString "[EMAIL]"

def phone : Rule Nat where
  body := .seq (.times isDecimal 3) <| .seq (.chars isSeparator 0 (some 1)) <|
    .seq (.times isDecimal 3) <| .seq (.chars isSeparator 0 (some 1)) <| .times isDecimal 4
  label := Text.ofString "[PHONE]"

def ssn : Rule Nat where
  body := .seq (.times isDecimal 3) <| .seq (literal 45) <| .seq (.times isDecimal 2) <|
    .seq (literal 45) <| .times isDecimal 4
  label := Text.ofString "[SSN]"

def card : Rule Nat where
  body := .alt
    (.seq (literal 52) <| .seq (.times isAsciiDigit 12) <| .opt (.times isAsciiDigit 3))
    (.seq (literal 53) <| .seq (.times isOneToFive 1) <| .times isAsciiDigit 14)
  label := Text.ofString "[CARD]"

def piiPatterns : List (Rule Nat) := [email, phone, ssn, card]

variable [Python.CharacterData]

def scrubPii (text : Text) : Text := Rule.subAll isWordCharacter piiPatterns text

/-! ## Labels and matches -/

/-- Square brackets around capital letters. -/
def piiLettering : Rule.Lettering isWordCharacter where
  bar code := code = 91 ∨ code = 93
  inner code := 65 ≤ code ∧ code ≤ 90
  outside code bar := by
    rcases bar with rfl | rfl
    · rw [Python.isWordCharacter_of_ascii (by decide)]
      rfl
    · rw [Python.isWordCharacter_of_ascii (by decide)]
      rfl

omit [Python.CharacterData] in
/-- A class without brackets. -/
theorem not_bracket {member : Nat → Bool} (opening : member 91 = false)
    (closing : member 93 = false) : ∀ code, member code = true → ¬(code = 91 ∨ code = 93) := by
  rintro code within (rfl | rfl)
  · rw [opening] at within
    cases within
  · rw [closing] at within
    cases within

omit [Python.CharacterData] in
/-- A class without capital letters. -/
theorem not_capital {member : Nat → Bool}
    (outside : ∀ code < 91, 65 ≤ code → member code = false) :
    ∀ code, member code = true → ¬(65 ≤ code ∧ code ≤ 90) := by
  intro code within capital
  rw [outside code (by omega) capital.1] at within
  cases within

omit [Python.CharacterData] in
theorem decimal_not_capital :
    ∀ code, isDecimal code = true → ¬(65 ≤ code ∧ code ≤ 90) := not_capital (by decide)

/-- A rule stands apart if its body has no brackets and goes through a class without capital
letters. -/
theorem apart_of_body {rule : Rule Nat} (isLabel : piiLettering.IsLabel rule.label)
    (permitted : rule.body.Over fun code => ¬(code = 91 ∨ code = 93))
    (needs : rule.body.Needs fun code => ¬(65 ≤ code ∧ code ≤ 90)) :
    rule.Apart piiLettering where
  isLabel := isLabel
  barless _ _ _ matched := permitted.of_mem (Regex.matches_whole.mp matched).2.1
  foreign _ _ _ matched := needs.exists_mem (Regex.matches_whole.mp matched).2.1

/-- Square brackets around capital letters make a label. -/
theorem isLabel_of_capitals {body : Text} (capitals : ∀ code ∈ body, 65 ≤ code ∧ code ≤ 90) :
    piiLettering.IsLabel (91 :: (body ++ [93])) :=
  ⟨91, body, 93, rfl, .inl rfl, .inr rfl, capitals⟩

theorem apart_email : email.Apart piiLettering := by
  apply apart_of_body
  · exact @isLabel_of_capitals _ [69, 77, 65, 73, 76] (by decide)
  · exact ⟨not_bracket rfl rfl, not_bracket rfl rfl, not_bracket rfl rfl, not_bracket rfl rfl,
      not_bracket rfl rfl⟩
  · exact .inr (.inl ⟨Nat.one_pos, not_capital (by decide)⟩)

theorem apart_phone : phone.Apart piiLettering := by
  apply apart_of_body
  · exact @isLabel_of_capitals _ [80, 72, 79, 78, 69] (by decide)
  · exact ⟨not_bracket rfl rfl, not_bracket rfl rfl, not_bracket rfl rfl, not_bracket rfl rfl,
      not_bracket rfl rfl⟩
  · exact .inl ⟨by decide, decimal_not_capital⟩

theorem apart_ssn : ssn.Apart piiLettering := by
  apply apart_of_body
  · exact @isLabel_of_capitals _ [83, 83, 78] (by decide)
  · exact ⟨not_bracket rfl rfl, not_bracket rfl rfl, not_bracket rfl rfl, not_bracket rfl rfl,
      not_bracket rfl rfl⟩
  · exact .inl ⟨by decide, decimal_not_capital⟩

theorem apart_card : card.Apart piiLettering := by
  apply apart_of_body
  · exact @isLabel_of_capitals _ [67, 65, 82, 68] (by decide)
  · exact ⟨⟨not_bracket rfl rfl, not_bracket rfl rfl, not_bracket rfl rfl⟩,
      not_bracket rfl rfl, not_bracket rfl rfl, not_bracket rfl rfl⟩
  · exact ⟨.inl ⟨Nat.one_pos, not_capital (by decide)⟩, .inl ⟨Nat.one_pos, not_capital (by decide)⟩⟩

theorem apart_piiPatterns : ∀ rule ∈ piiPatterns, rule.Apart piiLettering := by
  rw [piiPatterns, List.forall_mem_cons, List.forall_mem_cons, List.forall_mem_cons,
    List.forall_mem_singleton]
  exact ⟨apart_email, apart_phone, apart_ssn, apart_card⟩

/-! ## Scrubbed texts -/

/-- Scrubbing replaces matches of the text by their labels and keeps all else in order.  The
result has no match of any pattern, and scrubbing it again changes nothing. -/
theorem scrubPii_spec (text : Text) :
    (∃ segments, Segment.source segments = text ∧ Segment.shown segments = scrubPii text ∧
      Rule.Sound isWordCharacter piiPatterns false segments) ∧
    (∀ rule ∈ piiPatterns, rule.Clean isWordCharacter (scrubPii text)) ∧
    scrubPii (scrubPii text) = scrubPii text := by
  refine ⟨?_, Rule.clean_subAll apart_piiPatterns text, Rule.subAll_subAll apart_piiPatterns text⟩
  rcases Rule.exists_segments apart_piiPatterns text with ⟨segments, source, shown, sound⟩
  exact ⟨segments, source, shown, sound⟩

example : @scrubPii Python.plainCharacters
    (Text.ofString "Write to jane.smith@revorion.ai or call 415 202 0123.") =
      Text.ofString "Write to [EMAIL] or call [PHONE]." := by decide +kernel

end Chitragupt
