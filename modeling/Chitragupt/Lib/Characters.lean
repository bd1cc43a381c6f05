import Chitragupt.Lib.Conversion

/-!
# Character classes

Which characters are letters outside ASCII is a matter of the interpreter's Unicode data.
-/

namespace Python

/-- A decimal digit of Unicode. -/
def isDecimal (code : Nat) : Bool :=
  Numeral.zeros.any fun base => base ≤ code && code < base + 10

def isAsciiDigit (code : Nat) : Bool := 48 ≤ code && code ≤ 57

def isAsciiLetter (code : Nat) : Bool :=
  (65 ≤ code && code ≤ 90) || (97 ≤ code && code ≤ 122)

/-- `str.isalnum` for one code point.  Only ASCII, the decimal digits and white space are
fixed. -/
class CharacterData where
  isAlnum : Nat → Bool
  isAlnum_of_ascii : ∀ code < 128, isAlnum code = (isAsciiDigit code || isAsciiLetter code)
  isAlnum_of_isDecimal : ∀ code, isDecimal code = true → isAlnum code = true
  isAlnum_of_isSpace : ∀ code, isSpace code = true → isAlnum code = false

/-- Letters in ASCII only, and all decimal digits. -/
@[reducible] def plainCharacters : CharacterData where
  isAlnum code := isDecimal code || isAsciiLetter code
  isAlnum_of_ascii := by decide +kernel
  isAlnum_of_isDecimal code decimal := by rw [decimal, Bool.true_or]
  isAlnum_of_isSpace code space := by
    rw [Bool.or_eq_false_iff]
    constructor
    · rw [isDecimal, List.any_eq_false]
      intro base member bounds
      rw [Bool.and_eq_true, decide_eq_true_iff, decide_eq_true_iff] at bounds
      have digits : ∀ base ∈ Numeral.zeros, ∀ offset < 10, isSpace (base + offset) = false := by
        decide +kernel
      rcases Nat.exists_eq_add_of_le bounds.1 with ⟨offset, rfl⟩
      rw [digits base member offset (Nat.lt_of_add_lt_add_left bounds.2)] at space
      cases space
    · rw [isAsciiLetter, Bool.or_eq_false_iff, Bool.and_eq_false_iff, Bool.and_eq_false_iff]
      simp only [decide_eq_false_iff_not]
      by_contra letter
      have letters : ∀ code < 123, 65 ≤ code → isSpace code = false := by decide +kernel
      rw [letters code (by omega) (by omega)] at space
      cases space

variable [CharacterData]

/-- The word characters of `re`. -/
def isWordCharacter (code : Nat) : Bool := CharacterData.isAlnum code || code == 95

theorem isWordCharacter_of_ascii {code : Nat} (ascii : code < 128) :
    isWordCharacter code = (isAsciiDigit code || isAsciiLetter code || code == 95) := by
  rw [isWordCharacter, CharacterData.isAlnum_of_ascii code ascii]

end Python
