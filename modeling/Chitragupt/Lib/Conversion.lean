import Chitragupt.Lib.JsonDecoder

/-!
# Conversions of Python values

The constructors `int` and `float` applied to decoded values, `str.strip` and `str.split`,
and slices.  Numerals may use any decimal digits of Unicode, with single underscores between
digits.
-/

namespace Python

/-- `str.isspace` for one code point. -/
def isSpace (code : Nat) : Bool := Text.isWhiteSpace code || (0x1C ≤ code && code ≤ 0x1F)

/-- `str.strip`. -/
def strip (text : Text) : Text := Text.trimBy isSpace text

/-- `str.split`: the words between white space. -/
def split (text : Text) : List Text := (text.splitOnP isSpace).filter (· ≠ [])

/-- A word is not empty and has no white space. -/
structure IsWord (word : Text) : Prop where
  nonempty : word ≠ []
  solid : ∀ code ∈ word, isSpace code = false

/-- The parts of a split text have no white space. -/
theorem isSpace_of_mem_splitOnP {text part : Text} (member : part ∈ text.splitOnP isSpace) :
    ∀ code ∈ part, isSpace code = false := by
  induction text generalizing part with
  | nil =>
      rw [List.splitOnP_nil, List.mem_singleton] at member
      rw [member]
      intro code within
      cases within
  | cons head rest ih =>
      rw [List.splitOnP_cons_eq_if_modifyHead] at member
      split at member
      next space =>
        rw [List.mem_cons] at member
        cases member with
        | inl empty =>
            rw [empty]
            intro code within
            cases within
        | inr later => exact ih later
      next solid =>
        cases parts : rest.splitOnP isSpace with
        | nil => exact absurd parts (List.splitOnP_ne_nil isSpace rest)
        | cons first others =>
            rw [parts] at ih member
            rw [List.modifyHead_cons, List.mem_cons] at member
            cases member with
            | inl here =>
                rw [here, List.forall_mem_cons]
                exact ⟨Bool.eq_false_iff.mpr solid, ih List.mem_cons_self⟩
            | inr later => exact ih (List.mem_cons_of_mem _ later)

theorem isWord_of_mem_split {text word : Text} (member : word ∈ split text) : IsWord word := by
  rw [split, List.mem_filter, decide_eq_true_iff] at member
  exact ⟨member.2, isSpace_of_mem_splitOnP member.1⟩

/-- Words joined by spaces are split into the same words. -/
theorem split_intercalate {words : List Text} (all : ∀ word ∈ words, IsWord word) :
    split (List.intercalate (Text.ofString " ") words) = words := by
  have space : Text.ofString " " = [32] := rfl
  rw [space, split]
  induction words with
  | nil => rfl
  | cons word rest ih =>
      rw [List.forall_mem_cons] at all
      have kept : decide (word ≠ []) = true := decide_eq_true all.1.nonempty
      cases rest with
      | nil =>
          rw [List.intercalate_singleton, List.splitOnP_eq_singleton all.1.solid,
            List.filter_cons, if_pos kept, List.filter_nil]
      | cons next rest =>
          rw [List.intercalate_cons_cons, List.append_assoc, List.singleton_append,
            List.splitOnP_append_cons_of_forall_mem all.1.solid 32 (by decide),
            List.filter_cons, if_pos kept, ih all.2]

/-- `sequence[start:stop]`: negative positions count from the end. -/
def slice {α : Type*} (items : List α) (start stop : Int) : List α :=
  let position := fun index : Int =>
    (if index < 0 then max 0 (index + items.length) else index).toNat
  (items.take (position stop)).drop (position start)

namespace Numeral

/-- The zeros of the decimal digits; nine more digits follow each of them. -/
def zeros : List Nat :=
  [0x30, 0x660, 0x6F0, 0x7C0, 0x966, 0x9E6, 0xA66, 0xAE6, 0xB66, 0xBE6, 0xC66, 0xCE6, 0xD66,
   0xDE6, 0xE50, 0xED0, 0xF20, 0x1040, 0x1090, 0x17E0, 0x1810, 0x1946, 0x19D0, 0x1A80, 0x1A90,
   0x1B50, 0x1BB0, 0x1C40, 0x1C50, 0xA620, 0xA8D0, 0xA900, 0xA9D0, 0xA9F0, 0xAA50, 0xABF0,
   0xFF10, 0x104A0, 0x10D30, 0x11066, 0x110F0, 0x11136, 0x111D0, 0x112F0, 0x11450, 0x114D0,
   0x11650, 0x116C0, 0x11730, 0x118E0, 0x11950, 0x11C50, 0x11D50, 0x11DA0, 0x16A60, 0x16AC0,
   0x16B50, 0x1D7CE, 0x1D7D8, 0x1D7E2, 0x1D7EC, 0x1D7F6, 0x1E140, 0x1E2F0, 0x1E950, 0x1FBF0]

/-- White space and digits outside ASCII become ASCII, other code points there a
question mark. -/
def toAscii (code : Nat) : Nat :=
  if code < 127 then code
  else if isSpace code then 32
  else
    match zeros.find? fun base => base ≤ code && code < base + 10 with
    | some base => 48 + (code - base)
    | none => 63

def isAsciiSpace (code : Nat) : Bool := (9 ≤ code && code ≤ 13) || code == 32

/-- The digits of a numeral, with single underscores between them. -/
def digits : Text → Option (List Nat)
  | [] => none
  | [code] => if JsonDecoder.isDigit code then some [code - 48] else none
  | code :: 95 :: rest =>
      if JsonDecoder.isDigit code then (digits rest).map ((code - 48) :: ·) else none
  | code :: rest =>
      if JsonDecoder.isDigit code then (digits rest).map ((code - 48) :: ·) else none

/-- The sign of a numeral and the rest. -/
def sign : Text → Bool × Text
  | 45 :: rest => (true, rest)
  | 43 :: rest => (false, rest)
  | rest => (false, rest)

/-- Strip a numeral and split off its sign. -/
def normalize (text : Text) : Bool × Text :=
  sign (Text.trimBy isAsciiSpace (text.map toAscii))

def int (text : Text) : Except PyError Int :=
  let (negative, body) := normalize text
  match digits body with
  | none => .error (.valueError "invalid literal for int() with base 10")
  | some found =>
      if JsonDecoder.maxStrDigits < found.length then
        .error (.valueError "Exceeds the limit (4300 digits) for integer string conversion")
      else
        .ok (if negative then -(JsonDecoder.ofDigits found : Int) else JsonDecoder.ofDigits found)

/-- Digits that may be missing. -/
def optionalDigits (text : Text) : Option (List Nat) :=
  if text = [] then some [] else digits text

/-- A decimal number: whole part, fraction and exponent. -/
def decimal (negative : Bool) (body : Text) : Option ℚ := do
  let (mantissa, power) := body.span fun code => !(code == 101 || code == 69)
  let (whole, fraction) := mantissa.span fun code => !(code == 46)
  let whole ← optionalDigits whole
  let fraction ← optionalDigits fraction.tail
  guard (whole ≠ [] ∨ fraction ≠ [])
  match power with
  | [] => return JsonDecoder.decimal negative whole fraction 0
  | _ :: power =>
      let (down, power) := sign power
      let power ← digits power
      let power := (JsonDecoder.ofDigits power : Int)
      return JsonDecoder.decimal negative whole fraction (if down then -power else power)

def float (text : Text) : Except PyError ExactFloat :=
  let (negative, body) := normalize text
  let lower := Text.lower body
  if lower = .ofString "inf" ∨ lower = .ofString "infinity" then .ok (.infinite negative)
  else if lower = .ofString "nan" then .ok .nan
  else
    match decimal negative body with
    | some value => .ok (.ofRat value)
    | none => .error (.valueError "could not convert string to float")

end Numeral

namespace Json

/-- The integer part of a rational, towards zero. -/
def truncate (value : ℚ) : Int := value.num.tdiv value.den

/-- `int(value)`. -/
def toInt (value : Json) : Except PyError Int :=
  match value with
  | .bool flag => .ok (if flag then 1 else 0)
  | .int number => .ok number
  | .float (.finite number) => .ok (truncate number)
  | .float (.infinite _) =>
      .error ⟨.overflowError, "cannot convert float infinity to integer"⟩
  | .float .nan => .error (.valueError "cannot convert float NaN to integer")
  | .str text => Numeral.int text
  | other =>
      .error (.typeError
        s!"int() argument must be a string, a bytes-like object or a real number, not '{other.typeName}'")

/-- `float(value)`. -/
def toFloat (value : Json) : Except PyError ExactFloat :=
  match value with
  | .bool flag => .ok (.finite (if flag then 1 else 0))
  | .int number =>
      match ExactFloat.ofRat number with
      | .finite exact => .ok (.finite exact)
      | _ => .error ⟨.overflowError, "int too large to convert to float"⟩
  | .float number => .ok number
  | .str text => Numeral.float text
  | other =>
      .error (.typeError
        s!"float() argument must be a string or a real number, not '{other.typeName}'")

/-! ### Rejected conversions -/

/-- An infinite float. -/
def IsInfinite (value : Json) : Prop := ∃ negative, value = .float (.infinite negative)

theorem cls_of_numeralInt {text : Text} {error : PyError} (failed : Numeral.int text = .error error) :
    error.cls = .valueError := by
  simp only [Numeral.int] at failed
  split at failed
  · cases failed
    rfl
  · split at failed <;> cases failed
    rfl

theorem cls_of_numeralFloat {text : Text} {error : PyError}
    (failed : Numeral.float text = .error error) : error.cls = .valueError := by
  simp only [Numeral.float] at failed
  split_ifs at failed
  split at failed <;> cases failed
  rfl

/-- What `int` raises; of all values only an infinity overflows. -/
theorem cls_of_toInt {value : Json} {error : PyError} (failed : value.toInt = .error error) :
    error.cls = .valueError ∨ error.cls = .typeError ∨
      error.cls = .overflowError ∧ value.IsInfinite := by
  cases value with
  | null | list | dict =>
      cases failed
      exact .inr (.inl rfl)
  | bool flag => cases failed
  | int number => cases failed
  | str text => exact .inl (cls_of_numeralInt failed)
  | float number =>
      cases number with
      | finite number => cases failed
      | infinite negative =>
          cases failed
          exact .inr (.inr ⟨rfl, negative, rfl⟩)
      | nan =>
          cases failed
          exact .inl rfl

theorem toInt_of_isInfinite {value : Json} (infinite : value.IsInfinite) :
    ∃ error, value.toInt = .error error ∧ error.cls = .overflowError := by
  rcases infinite with ⟨negative, rfl⟩
  exact ⟨_, rfl, rfl⟩

theorem not_isInfinite_of_toInt {value : Json} {number : Int} (converted : value.toInt = .ok number) :
    ¬value.IsInfinite := by
  intro infinite
  rcases toInt_of_isInfinite infinite with ⟨_, overflows, _⟩
  rw [converted] at overflows
  cases overflows

/-- What `float` raises. -/
theorem cls_of_toFloat {value : Json} {error : PyError} (failed : value.toFloat = .error error) :
    error.cls = .valueError ∨ error.cls = .typeError ∨ error.cls = .overflowError := by
  cases value with
  | null | list | dict =>
      cases failed
      exact .inr (.inl rfl)
  | bool flag => cases failed
  | float number => cases failed
  | str text => exact .inl (cls_of_numeralFloat failed)
  | int number =>
      unfold toFloat at failed
      dsimp only at failed
      split at failed
      · cases failed
      · cases failed
        exact .inr (.inr rfl)

end Json

end Python
