import Mathlib.Data.Rat.Floor
import Mathlib.Tactic.Linarith
import Mathlib.Tactic.NormNum
import Chitragupt.Lib.JsonDecoder

/-!
# Writing JSON strings and numbers

Writers of JSON text differ in the characters they escape and in the digits they print
for a number.  These choices come together with what makes them readable, and the
decoder reads back what they write.
-/

namespace Python

namespace JsonWriter

open JsonDecoder

/-! ## Strings -/

/-- Code points of valid Unicode, without the surrogates. -/
def Scalars (text : Text) : Prop := ∀ code ∈ text, Nat.isValidChar code

theorem scalars_ofString (string : String) : Scalars (.ofString string) := by
  intro code member
  rcases List.mem_map.mp member with ⟨char, _, rfl⟩
  exact char.valid

/-- A hexadecimal digit in lower case. -/
def hexDigitChar (value : Nat) : Nat := if value < 10 then 48 + value else 87 + value

/-- The four hexadecimal digits of a UTF-16 code unit. -/
def unitDigits (unit : Nat) : Text :=
  [ hexDigitChar (unit / 4096 % 16), hexDigitChar (unit / 256 % 16),
    hexDigitChar (unit / 16 % 16), hexDigitChar (unit % 16) ]

/-- The escape of one UTF-16 code unit. -/
def unitEscape (unit : Nat) : Text := 92 :: 117 :: unitDigits unit

theorem hexDigit_hexDigitChar {value : Nat} (small : value < 16) :
    hexDigit (hexDigitChar value) = some value := by
  have all : ∀ value < 16, hexDigit (hexDigitChar value) = some value := by decide
  exact all value small

theorem hexUnit_unitDigits {unit : Nat} (small : unit < 0x10000) (rest : Text) :
    hexUnit (unitDigits unit ++ rest) = some (unit, rest) := by
  simp only [unitDigits, List.cons_append, List.nil_append, hexUnit, List.foldlM_cons,
    List.foldlM_nil, Option.pure_def, Option.bind_eq_bind,
    hexDigit_hexDigitChar (Nat.mod_lt _ (by decide : 16 > 0)), Option.map_some, Option.bind_some,
    Option.some.injEq, Prod.mk.injEq, and_true]
  omega

/-- The escape of a code point by its number: one unit, or a surrogate pair. -/
def numericEscape (code : Nat) : Text :=
  if code < 0x10000 then unitEscape code
  else
    unitEscape (0xD800 + (code - 0x10000) / 0x400) ++
      unitEscape (0xDC00 + (code - 0x10000) % 0x400)

/-- Which code points a writer leaves as they are, and which have an escape of one letter. -/
structure Escaping where
  plain : Nat → Bool
  short : List (Nat × Nat)
  plain_readable : ∀ code, plain code = true → 32 ≤ code ∧ code ≠ 34 ∧ code ≠ 92
  short_readable : ∀ entry ∈ short, ∀ rest, escape (entry.2 :: rest) = .ok (entry.1, rest)
  short_visible : ∀ entry ∈ short, 32 < entry.2 ∧ entry.2 < 127

namespace Escaping

variable (escaping : Escaping)

/-- A code point inside a string literal. -/
def escapeCode (code : Nat) : Text :=
  match escaping.short.lookup code with
  | some letter => [92, letter]
  | none => if escaping.plain code then [code] else numericEscape code

def quoted (text : Text) : Text := 34 :: (text.flatMap escaping.escapeCode ++ [34])

end Escaping

/-- The code points of one step of the string scanner, in front of the rest. -/
private def prepend (code : Nat) : Text × Text → Text × Text :=
  fun (codes, rest) => (code :: codes, rest)

theorem scanString_escape {fuel code : Nat} {text rest : Text}
    (escaped : escape text = .ok (code, rest)) :
    scanString (fuel + 1) (92 :: text) = (scanString fuel rest).map (prepend code) := by
  simp only [scanString, escaped, bind, Except.bind]
  cases scanString fuel rest <;> rfl

theorem scanString_plain {fuel code : Nat} {rest : Text} (printable : 32 ≤ code)
    (notQuote : code ≠ 34) (notBackslash : code ≠ 92) :
    scanString (fuel + 1) (code :: rest) = (scanString fuel rest).map (prepend code) := by
  rw [scanString]
  · rw [if_neg (Nat.not_lt.mpr printable)]
    cases scanString fuel rest <;> rfl
  · exact notQuote
  · exact notBackslash

theorem escape_unit {unit : Nat} {text rest : Text} (read : hexUnit text = some (unit, rest))
    (alone : ¬(0xD800 ≤ unit ∧ unit ≤ 0xDBFF)) : escape (117 :: text) = .ok (unit, rest) := by
  simp only [escape, read, if_neg alone]

theorem escape_pair {high low : Nat} {text middle rest : Text}
    (first : hexUnit text = some (high, 92 :: 117 :: middle))
    (isHigh : 0xD800 ≤ high ∧ high ≤ 0xDBFF) (second : hexUnit middle = some (low, rest))
    (isLow : 0xDC00 ≤ low ∧ low ≤ 0xDFFF) :
    escape (117 :: text) =
      .ok (0x10000 + (high - 0xD800) * 0x400 + (low - 0xDC00), rest) := by
  simp only [escape, first, if_pos isHigh, lowSurrogate, second, if_pos isLow]

/-- An escape by number is read as the code point it was written for. -/
theorem escape_numericEscape {code : Nat} (valid : Nat.isValidChar code) (rest : Text) :
    ∃ tail, numericEscape code ++ rest = 92 :: tail ∧ escape tail = .ok (code, rest) := by
  rw [numericEscape]
  split
  next small =>
    refine ⟨117 :: (unitDigits code ++ rest), rfl, ?_⟩
    refine escape_unit (hexUnit_unitDigits small rest) ?_
    rcases valid with below | above <;> omega
  next large =>
    have bound : code < 0x110000 := by rcases valid with below | above <;> omega
    refine ⟨117 :: (unitDigits (0xD800 + (code - 0x10000) / 0x400) ++
      (unitEscape (0xDC00 + (code - 0x10000) % 0x400) ++ rest)), by simp [unitEscape], ?_⟩
    have inHigh : 0xD800 + (code - 0x10000) / 0x400 < 0x10000 := by omega
    have inLow : 0xDC00 + (code - 0x10000) % 0x400 < 0x10000 := by omega
    have high := hexUnit_unitDigits inHigh (unitEscape (0xDC00 + (code - 0x10000) % 0x400) ++ rest)
    have low := hexUnit_unitDigits inLow rest
    rw [escape_pair high (by omega) low (by omega), Except.ok.injEq, Prod.mk.injEq]
    exact ⟨by omega, rfl⟩

namespace Escaping

variable (escaping : Escaping)

/-- The scanner takes one step for one code point, however it is written. -/
theorem scanString_escapeCode {code : Nat} (valid : Nat.isValidChar code) (fuel : Nat)
    (rest : Text) :
    scanString (fuel + 1) (escaping.escapeCode code ++ rest) =
      (scanString fuel rest).map (prepend code) := by
  rw [escapeCode]
  split
  next letter found =>
    rcases List.lookup_eq_some_iff.mp found with ⟨before, after, same, _⟩
    have listed : (code, letter) ∈ escaping.short := by
      rw [same]
      exact List.mem_append_right _ List.mem_cons_self
    exact scanString_escape (escaping.short_readable (code, letter) listed rest)
  next =>
    split
    next plain =>
      rcases escaping.plain_readable code plain with ⟨printable, notQuote, notBackslash⟩
      exact scanString_plain printable notQuote notBackslash
    next =>
      rcases escape_numericEscape valid rest with ⟨tail, same, escaped⟩
      rw [same]
      exact scanString_escape escaped

theorem length_escapeCode_pos (code : Nat) : 0 < (escaping.escapeCode code).length := by
  rw [escapeCode, numericEscape]
  split
  · simp
  · split_ifs <;> simp [unitEscape]

/-- A string literal is read up to its closing quote. -/
theorem scanString_flatMap {text : Text} (valid : Scalars text) {fuel : Nat}
    (enough : text.length ≤ fuel) (rest : Text) :
    scanString fuel (text.flatMap escaping.escapeCode ++ 34 :: rest) = .ok (text, rest) := by
  induction text generalizing fuel with
  | nil => cases fuel <;> rfl
  | cons code text ih =>
      rw [Scalars, List.forall_mem_cons] at valid
      cases fuel with
      | zero => simp at enough
      | succ fuel =>
          have continued := ih valid.2 (Nat.le_of_succ_le_succ enough)
          rw [List.flatMap_cons, List.append_assoc,
            escaping.scanString_escapeCode valid.1, continued]
          rfl

theorem length_le_flatMap (text : Text) :
    text.length ≤ (text.flatMap escaping.escapeCode).length := by
  induction text with
  | nil => exact le_rfl
  | cons code text ih =>
      have positive := escaping.length_escapeCode_pos code
      rw [List.flatMap_cons, List.length_append, List.length_cons]
      omega

/-- The fuel granted to a literal is enough. -/
theorem scanString_quoted {text : Text} (valid : Scalars text) (rest : Text) :
    scanString (text.flatMap escaping.escapeCode ++ 34 :: rest).length
      (text.flatMap escaping.escapeCode ++ 34 :: rest) = .ok (text, rest) := by
  have bound := escaping.length_le_flatMap text
  refine escaping.scanString_flatMap valid ?_ rest
  rw [List.length_append]
  omega

end Escaping

/-- The escapes of one letter that JSON has for code points other than the slash. -/
def letters : List (Nat × Nat) :=
  [(34, 34), (92, 92), (8, 98), (12, 102), (10, 110), (13, 114), (9, 116)]

theorem letters_readable : ∀ entry ∈ letters, ∀ rest,
    escape (entry.2 :: rest) = .ok (entry.1, rest) := by
  intro entry member rest
  simp only [letters, List.mem_cons, List.not_mem_nil, or_false] at member
  rcases member with rfl | rfl | rfl | rfl | rfl | rfl | rfl <;> rfl

theorem letters_visible : ∀ entry ∈ letters, 32 < entry.2 ∧ entry.2 < 127 := by decide

/-! ## Numbers -/

/-- The digits have ended in front of this text. -/
def EndsDigits (rest : Text) : Prop := ∀ code ∈ rest.head?, isDigit code = false

/-- A number has ended in front of this text. -/
def EndsNumber (rest : Text) : Prop :=
  ∀ code ∈ rest.head?, isDigit code = false ∧ code ≠ 46 ∧ code ≠ 101 ∧ code ≠ 69

theorem EndsNumber.endsDigits {rest : Text} (ends : EndsNumber rest) : EndsDigits rest :=
  fun code member => (ends code member).1

theorem endsNumber_nil : EndsNumber [] := by
  intro code member
  cases member

theorem endsNumber_cons {code : Nat} {rest : Text} (other : isDigit code = false)
    (notPoint : code ≠ 46) (notLower : code ≠ 101) (notUpper : code ≠ 69) :
    EndsNumber (code :: rest) := by
  intro head member
  rcases Option.some.inj member with rfl
  exact ⟨other, notPoint, notLower, notUpper⟩

theorem fraction_of_endsNumber {rest : Text} (ends : EndsNumber rest) : fraction rest = none := by
  unfold fraction
  split
  next tail => exact absurd rfl (ends 46 rfl).2.1
  next => rfl

theorem exponent_of_endsNumber {rest : Text} (ends : EndsNumber rest) : exponent rest = none := by
  cases rest with
  | nil => rfl
  | cons code tail =>
      rcases ends code rfl with ⟨-, -, notLower, notUpper⟩
      simp [exponent, notLower, notUpper]

/-- The decimal digits of a number as code points. -/
def digitsText (value : Nat) : Text := (Nat.toDigits 10 value).map Char.toNat

/-- The decimal text of an integer. -/
def intText (value : Int) : Text :=
  if value < 0 then 45 :: digitsText value.natAbs else digitsText value.natAbs

theorem digitsText_of_lt {value : Nat} (small : value < 10) : digitsText value = [48 + value] := by
  have all : ∀ value < 10, (Nat.digitChar value).toNat = 48 + value := by decide
  rw [digitsText, Nat.toDigits_of_lt_base small, List.map_singleton, all value small]

theorem digitsText_of_le {value : Nat} (large : 10 ≤ value) :
    digitsText value = digitsText (value / 10) ++ [48 + value % 10] := by
  have last := digitsText_of_lt (Nat.mod_lt value (by decide : 10 > 0))
  rw [digitsText, Nat.toDigits_of_lt_base (Nat.mod_lt value (by decide))] at last
  rw [digitsText, Nat.toDigits_of_base_le (by decide) large, List.map_append, last, digitsText]

theorem digitsText_ne_nil (value : Nat) : digitsText value ≠ [] := by
  rw [digitsText, ne_eq, List.map_eq_nil_iff]
  exact Nat.toDigits_ne_nil

theorem isDigit_of_mem_digitsText {value code : Nat} (member : code ∈ digitsText value) :
    isDigit code = true := by
  induction value using Nat.strong_induction_on with
  | _ value ih =>
      have digit : ∀ rest < 10, isDigit (48 + rest) = true := by decide
      rcases lt_or_ge value 10 with small | large
      · rw [digitsText_of_lt small, List.mem_singleton] at member
        exact member ▸ digit value small
      · rw [digitsText_of_le large, List.mem_append, List.mem_singleton] at member
        rcases member with member | rfl
        · exact ih (value / 10) (by omega) member
        · exact digit _ (Nat.mod_lt _ (by decide))

theorem ofDigits_digitsText (value : Nat) :
    ofDigits ((digitsText value).map (· - 48)) = value := by
  induction value using Nat.strong_induction_on with
  | _ value ih =>
      rcases lt_or_ge value 10 with small | large
      · rw [digitsText_of_lt small]
        simp [ofDigits]
      · have earlier := ih (value / 10) (by omega)
        rw [digitsText_of_le large, List.map_append, ofDigits, List.foldl_append, ← ofDigits,
          earlier]
        simp only [List.map_cons, List.map_nil, List.foldl_cons, List.foldl_nil]
        omega

/-- A positive number is written without leading zeros. -/
theorem head_digitsText {value : Nat} (positive : 0 < value) :
    ∀ code ∈ (digitsText value).head?, code ≠ 48 := by
  induction value using Nat.strong_induction_on with
  | _ value ih =>
      rcases lt_or_ge value 10 with small | large
      · rw [digitsText_of_lt small]
        intro code member
        rcases Option.some.inj member with rfl
        omega
      · rw [digitsText_of_le large, List.head?_append_of_ne_nil _ (digitsText_ne_nil _)]
        exact ih (value / 10) (by omega) (by omega)

theorem length_digitsText_le {value : Nat} (bound : value < 10 ^ maxStrDigits) :
    (digitsText value).length ≤ maxStrDigits := by
  rw [digitsText, List.length_map, Nat.length_toDigits_le_iff (by decide) (by decide)]
  exact bound

theorem spanDigits_append {digits : List Nat} (all : ∀ code ∈ digits, isDigit code = true)
    {rest : Text} (ends : EndsDigits rest) :
    spanDigits (digits ++ rest) = (digits.map (· - 48), rest) := by
  have stop : rest.takeWhile isDigit = [] ∧ rest.dropWhile isDigit = rest := by
    cases rest with
    | nil => exact ⟨rfl, rfl⟩
    | cons code tail => simp [ends code rfl]
  rw [spanDigits, List.span_eq_takeWhile_dropWhile, List.takeWhile_append_of_pos all,
    List.dropWhile_append_of_pos all, stop.1, stop.2, List.append_nil]

/-! ### The scanner in three parts -/

/-- The sign in front of a number. -/
def sign : Text → Bool × Text
  | 45 :: rest => (true, rest)
  | rest => (false, rest)

/-- The digits in front of a fraction or an exponent. -/
def wholeDigits : Text → List Nat × Text
  | 48 :: rest => ([0], rest)
  | rest => spanDigits rest

/-- What follows the digits decides between an integer and a float. -/
def scanTail (negative : Bool) (whole : List Nat) (rest : Text) :
    Except PyError (Json × Text) :=
  if whole = [] then .error (jsonDecodeError "Expecting value")
  else
    match fraction rest, exponent rest with
    | none, none =>
        if maxStrDigits < whole.length then
          .error (.valueError
            "Exceeds the limit (4300 digits) for integer string conversion")
        else
          .ok (.int (if negative then -(ofDigits whole : Int) else ofDigits whole), rest)
    | some (fractional, rest), _ =>
        match exponent rest with
        | some (power, rest) =>
            .ok (.float (.ofRat (decimal negative whole fractional power)), rest)
        | none => .ok (.float (.ofRat (decimal negative whole fractional 0)), rest)
    | none, some (power, rest) =>
        .ok (.float (.ofRat (decimal negative whole [] power)), rest)

theorem scanNumber_eq (text : Text) :
    scanNumber text =
      scanTail (sign text).1 (wholeDigits (sign text).2).1 (wholeDigits (sign text).2).2 := rfl

theorem sign_of_isDigit {code : Nat} {rest : Text} (digit : isDigit code = true) :
    sign (code :: rest) = (false, code :: rest) := by
  unfold sign
  split
  next tail starts =>
    rw [List.cons.injEq] at starts
    rw [starts.1] at digit
    cases digit
  next => rfl

theorem sign_digitsText (value : Nat) (rest : Text) :
    sign (digitsText value ++ rest) = (false, digitsText value ++ rest) := by
  cases spelled : digitsText value with
  | nil => exact absurd spelled (digitsText_ne_nil value)
  | cons code digits =>
      exact sign_of_isDigit (isDigit_of_mem_digitsText (spelled ▸ List.mem_cons_self))

/-- A number without leading zeros is read as far as its digits go. -/
theorem wholeDigits_digitsText (value : Nat) {rest : Text} (ends : EndsDigits rest) :
    wholeDigits (digitsText value ++ rest) = ((digitsText value).map (· - 48), rest) := by
  rcases Nat.eq_zero_or_pos value with rfl | positive
  · rw [digitsText_of_lt (by decide)]
    rfl
  · have nonzero := head_digitsText positive
    have digits : ∀ code ∈ digitsText value, isDigit code = true :=
      fun _ => isDigit_of_mem_digitsText
    have span := spanDigits_append digits ends
    unfold wholeDigits
    split
    next tail starts =>
      cases spelled : digitsText value with
      | nil => exact absurd spelled (digitsText_ne_nil value)
      | cons code digits =>
          rw [spelled, List.cons_append, List.cons.injEq] at starts
          rw [spelled] at nonzero
          exact absurd starts.1 (nonzero code rfl)
    next => exact span

theorem scanTail_digitsText (negative : Bool) {value : Nat} (bound : value < 10 ^ maxStrDigits)
    {rest : Text} (ends : EndsNumber rest) :
    scanTail negative ((digitsText value).map (· - 48)) rest =
      .ok (.int (if negative then -value else value), rest) := by
  have digits : (digitsText value).map (· - 48) ≠ [] := by
    rw [ne_eq, List.map_eq_nil_iff]
    exact digitsText_ne_nil _
  have fits : ¬maxStrDigits < ((digitsText value).map (· - 48)).length := by
    rw [List.length_map, Nat.not_lt]
    exact length_digitsText_le bound
  rw [scanTail, if_neg digits, fraction_of_endsNumber ends, exponent_of_endsNumber ends]
  dsimp only
  rw [if_neg fits, ofDigits_digitsText]

theorem scanNumber_intText {value : Int} (bound : value.natAbs < 10 ^ maxStrDigits) {rest : Text}
    (ends : EndsNumber rest) : scanNumber (intText value ++ rest) = .ok (.int value, rest) := by
  have whole := wholeDigits_digitsText value.natAbs ends.endsDigits
  rw [intText, scanNumber_eq]
  split
  next negative =>
    have signed : sign (45 :: digitsText value.natAbs ++ rest) =
      (true, digitsText value.natAbs ++ rest) := rfl
    rw [signed, whole, scanTail_digitsText true bound ends, if_pos rfl, ← Int.abs_eq_natAbs,
      abs_of_neg negative, neg_neg]
  next nonnegative =>
    rw [sign_digitsText, whole, scanTail_digitsText false bound ends, if_neg Bool.false_ne_true,
      ← Int.abs_eq_natAbs, abs_of_nonneg (Int.not_lt.mp nonnegative)]

theorem starts_of_wholeDigits {text : Text} (found : (wholeDigits text).1 ≠ []) :
    ∃ code tail, text = code :: tail ∧ isDigit code = true := by
  unfold wholeDigits at found
  split at found
  next tail => exact ⟨48, tail, rfl, rfl⟩
  next =>
    rw [spanDigits, List.span_eq_takeWhile_dropWhile] at found
    cases text with
    | nil => simp at found
    | cons code tail =>
        refine ⟨code, tail, rfl, ?_⟩
        by_contra other
        simp [other] at found

/-- A number starts with a digit, or with a minus sign and a digit. -/
theorem starts_of_scanNumber {text rest : Text} {value : Json}
    (scanned : scanNumber text = .ok (value, rest)) :
    (∃ code tail, text = code :: tail ∧ isDigit code = true) ∨
      ∃ code tail, text = 45 :: code :: tail ∧ isDigit code = true := by
  rw [scanNumber_eq, scanTail] at scanned
  rcases ite_eq_iff.mp scanned with ⟨-, failed⟩ | ⟨found, -⟩
  · cases failed
  · rcases starts_of_wholeDigits found with ⟨code, tail, starts, digit⟩
    unfold sign at starts
    split at starts
    next behind =>
      change behind = _ at starts
      exact .inr ⟨code, tail, by rw [starts], digit⟩
    next => exact .inl ⟨code, tail, starts, digit⟩

/-- Whether a text starts like a number. -/
def startsNumber : Text → Bool
  | [] => false
  | code :: rest => isDigit code || (code == 45 && rest.head?.any isDigit)

theorem startsNumber_of_scanNumber {text rest : Text} {value : Json}
    (scanned : scanNumber text = .ok (value, rest)) : startsNumber text = true := by
  rcases starts_of_scanNumber scanned with ⟨code, tail, rfl, digit⟩ | ⟨code, tail, rfl, digit⟩
  · rw [startsNumber, digit, Bool.true_or]
  · simp [startsNumber, digit]

/-- No literal starts like a number. -/
theorem dropPrefix?_literal {text : Text} (number : startsNumber text = true) {literal : Text}
    {value : Json} (listed : (literal, value) ∈ literals) : dropPrefix? literal text = none := by
  have apart : ∀ entry ∈ literals, startsNumber entry.1 = false ∧ 2 ≤ entry.1.length := by
    simp only [literals, List.forall_mem_cons]
    decide
  rcases apart _ listed with ⟨other, long⟩
  rw [dropPrefix?, ite_eq_right_iff, List.isPrefixOf_iff_prefix]
  rintro ⟨rest, rfl⟩
  -- A literal has two letters or more, and these decide.
  cases literal with
  | nil => simp at long
  | cons first behind =>
      cases behind with
      | nil => simp at long
      | cons second tail =>
          have same : startsNumber (first :: second :: tail ++ rest) =
            startsNumber (first :: second :: tail) := rfl
          rw [same, other] at number
          cases number

theorem scanOnce_of_scanNumber {room : Nat} {text rest : Text} {value : Json}
    (scanned : scanNumber text = .ok (value, rest)) :
    scanOnce room text = .ok (.complete value rest) := by
  have number := startsNumber_of_scanNumber scanned
  unfold scanOnce
  split
  next => cases number
  next => cases number
  next => cases number
  next =>
    rw [List.findSome?_eq_none_iff.mpr, scanned]
    · rfl
    · rintro ⟨literal, value⟩ listed
      dsimp only
      rw [dropPrefix?_literal number listed, Option.map_none]

/-! ### Visible texts -/

theorem visible_digitsText {value : Nat} :
    ∀ code ∈ digitsText value, 32 < code ∧ code < 127 := by
  intro code member
  have digit := isDigit_of_mem_digitsText member
  simp only [isDigit, Bool.and_eq_true, decide_eq_true_eq] at digit
  omega

theorem visible_intText (value : Int) : ∀ code ∈ intText value, 32 < code ∧ code < 127 := by
  intro code member
  rw [intText] at member
  split at member
  · rcases List.mem_cons.mp member with rfl | digit
    · decide
    · exact visible_digitsText code digit
  · exact visible_digitsText code member

theorem visible_numericEscape (unit : Nat) :
    ∀ code ∈ numericEscape unit, 32 < code ∧ code < 127 := by
  have digit : ∀ value, value < 16 → 32 < hexDigitChar value ∧ hexDigitChar value < 127 := by
    decide
  have escaped : ∀ unit, ∀ code ∈ unitEscape unit, 32 < code ∧ code < 127 := by
    intro unit code member
    simp only [unitEscape, unitDigits, List.mem_cons, List.not_mem_nil, or_false] at member
    rcases member with rfl | rfl | rfl | rfl | rfl | rfl
    · decide
    · decide
    all_goals exact digit _ (Nat.mod_lt _ (by decide))
  intro code member
  rw [numericEscape] at member
  split at member
  · exact escaped _ code member
  · rcases List.mem_append.mp member with high | low
    · exact escaped _ code high
    · exact escaped _ code low

/-- A literal has visible characters, and those that its writer leaves as they are. -/
theorem Escaping.mem_quoted (escaping : Escaping) {text : Text} {code : Nat}
    (member : code ∈ escaping.quoted text) :
    32 < code ∧ code < 127 ∨ code ∈ text ∧ escaping.plain code = true := by
  have single : ∀ other, code ∈ escaping.escapeCode other →
      32 < code ∧ code < 127 ∨ code = other ∧ escaping.plain code = true := by
    intro other inside
    rw [escapeCode] at inside
    split at inside
    next letter found =>
      rcases List.lookup_eq_some_iff.mp found with ⟨before, after, same, _⟩
      have listed : (other, letter) ∈ escaping.short := by
        rw [same]
        exact List.mem_append_right _ List.mem_cons_self
      rcases List.mem_cons.mp inside with rfl | last
      · exact .inl (by decide)
      · rw [List.mem_singleton.mp last]
        exact .inl (escaping.short_visible _ listed)
    next =>
      split at inside
      next plain =>
        rcases List.mem_singleton.mp inside with rfl
        exact .inr ⟨rfl, plain⟩
      next => exact .inl (visible_numericEscape other code inside)
  rw [quoted, List.mem_cons, List.mem_append, List.mem_singleton] at member
  rcases member with rfl | inside | rfl
  · exact .inl (by decide)
  · rcases List.mem_flatMap.mp inside with ⟨other, present, spelled⟩
    rcases single other spelled with visible | ⟨rfl, plain⟩
    · exact .inl visible
    · exact .inr ⟨present, plain⟩
  · exact .inl (by decide)

/-- No code point is written as a bare quote. -/
theorem Escaping.head_escapeCode (escaping : Escaping) (code : Nat) :
    ∃ first tail, escaping.escapeCode code = first :: tail ∧ first ≠ 34 := by
  rw [escapeCode, numericEscape]
  split
  next letter _ => exact ⟨92, [letter], rfl, by decide⟩
  next =>
    split
    next plain => exact ⟨code, [], rfl, (escaping.plain_readable code plain).2.1⟩
    next => split <;> exact ⟨92, _, rfl, by decide⟩

/-- A code point is written as it is, or up to a visible character. -/
theorem Escaping.concat_escapeCode (escaping : Escaping) (code : Nat) :
    escaping.escapeCode code = [code] ∨
      ∃ front last, escaping.escapeCode code = front ++ [last] ∧ 32 < last ∧ last < 127 := by
  have unit : ∀ unit, ∃ front last, unitEscape unit = front ++ [last] := fun unit =>
    ⟨[92, 117, hexDigitChar (unit / 4096 % 16), hexDigitChar (unit / 256 % 16),
      hexDigitChar (unit / 16 % 16)], hexDigitChar (unit % 16), rfl⟩
  have numeric : ∃ front last, numericEscape code = front ++ [last] := by
    rw [numericEscape]
    split
    · exact unit code
    · rcases unit (0xDC00 + (code - 0x10000) % 0x400) with ⟨front, last, spelled⟩
      rw [spelled, ← List.append_assoc]
      exact ⟨_, last, rfl⟩
  rw [escapeCode]
  split
  next letter found =>
    rcases List.lookup_eq_some_iff.mp found with ⟨before, after, same, _⟩
    have listed : (code, letter) ∈ escaping.short := by
      rw [same]
      exact List.mem_append_right _ List.mem_cons_self
    exact .inr ⟨[92], letter, rfl, escaping.short_visible _ listed⟩
  next =>
    split
    next plain => exact .inl rfl
    next =>
      rcases numeric with ⟨front, last, spelled⟩
      refine .inr ⟨front, last, spelled, visible_numericEscape code last ?_⟩
      rw [spelled]
      exact List.mem_append_right _ List.mem_cons_self

/-- A literal without its closing quote is refused. -/
theorem Escaping.scanString_unterminated (escaping : Escaping) {text : Text}
    (valid : Scalars text) (fuel : Nat) :
    scanString fuel (text.flatMap escaping.escapeCode) =
      .error (jsonDecodeError "Unterminated string starting at") := by
  induction text generalizing fuel with
  | nil => cases fuel <;> rfl
  | cons code text ih =>
      rw [Scalars, List.forall_mem_cons] at valid
      rw [List.flatMap_cons]
      cases fuel with
      | zero =>
          rcases escaping.head_escapeCode code with ⟨first, tail, same, notQuote⟩
          rw [same, List.cons_append, scanString]
          exact notQuote
      | succ fuel =>
          rw [escaping.scanString_escapeCode valid.1, ih valid.2]
          rfl

/-- How numbers are printed, and what their texts are read as. -/
structure NumberFormat where
  print : ℚ → Text
  denotes : ℚ → Json
  reads : ∀ value rest, EndsNumber rest →
    scanNumber (print value ++ rest) = .ok (denotes value, rest)
  visible : ∀ value, ∀ code ∈ print value, 32 < code ∧ code < 127

/-- Whole numbers of up to so many digits are printed without a fraction. -/
def NumberFormat.withWholes (numbers : NumberFormat) (digits : Nat)
    (few : digits ≤ maxStrDigits) : NumberFormat where
  print value :=
    if value.isInt ∧ value.num.natAbs < 10 ^ digits then intText value.num
    else numbers.print value
  denotes value :=
    if value.isInt ∧ value.num.natAbs < 10 ^ digits then .int value.num
    else numbers.denotes value
  reads value rest ends := by
    split
    next whole =>
      exact scanNumber_intText
        (whole.2.trans_le (Nat.pow_le_pow_right (by decide) few)) ends
    next => exact numbers.reads value rest ends
  visible value := by
    split
    next => exact visible_intText value.num
    next => exact numbers.visible value

/-! ### Printed fractions -/

/-- The text of a number of tenths. -/
def tenthsText (count : Nat) : Text := digitsText (count / 10) ++ [46, 48 + count % 10]

theorem scanNumber_tenthsText (count : Nat) {rest : Text} (ends : EndsNumber rest) :
    scanNumber (tenthsText count ++ rest) = .ok (.float (.ofRat (count / 10)), rest) := by
  have point : EndsDigits (46 :: (48 + count % 10) :: rest) := by
    intro code member
    rcases Option.some.inj member with rfl
    rfl
  have digit : ∀ code ∈ [48 + count % 10], isDigit code = true := by
    intro code member
    rw [List.mem_singleton] at member
    simp only [member, isDigit, Bool.and_eq_true, decide_eq_true_eq]
    omega
  have behind : fraction (46 :: (48 + count % 10) :: rest) = some ([count % 10], rest) := by
    have spanned : spanDigits ((48 + count % 10) :: rest) =
        ([48 + count % 10].map (· - 48), rest) := spanDigits_append digit ends.endsDigits
    simp [fraction, spanned]
  have nonempty : (digitsText (count / 10)).map (· - 48) ≠ [] := by
    rw [ne_eq, List.map_eq_nil_iff]
    exact digitsText_ne_nil _
  have text : tenthsText count ++ rest =
      digitsText (count / 10) ++ 46 :: (48 + count % 10) :: rest := by
    simp [tenthsText]
  have value : decimal false ((digitsText (count / 10)).map (· - 48)) [count % 10] 0 =
      (count : ℚ) / 10 := by
    have whole := ofDigits_digitsText (count / 10)
    rw [decimal, ofDigits, List.foldl_append, ← ofDigits, whole]
    have split : count / 10 * 10 + count % 10 = count := by omega
    simp [split, zpow_neg, div_eq_mul_inv]
  rw [text, scanNumber_eq, sign_digitsText, wholeDigits_digitsText _ point, scanTail,
    if_neg nonempty, behind]
  simp only [exponent_of_endsNumber ends, value]

theorem visible_tenthsText (count : Nat) :
    ∀ code ∈ tenthsText count, 32 < code ∧ code < 127 := by
  intro code member
  rw [tenthsText, List.mem_append] at member
  rcases member with digit | point
  · exact visible_digitsText code digit
  · simp only [List.mem_cons, List.not_mem_nil, or_false] at point
    omega

/-- Amounts rounded down to one decimal place, up to a bound. -/
def tenthsOf (value : ℚ) : Nat := min ⌊value * 10⌋.toNat (10 ^ 15)

theorem ofRat_tenths {count : Nat} (bound : count ≤ 10 ^ 15) :
    ExactFloat.ofRat (count / 10) = .finite (count / 10) := by
  have nonnegative : (0 : ℚ) ≤ count / 10 := by positivity
  have upper : (count : ℚ) / 10 < ExactFloat.overflowBound := by
    have large : (10 ^ 15 : ℚ) ≤ ExactFloat.overflowBound := by
      have step : (2 : ℚ) ^ 1024 = 2 ^ 970 * 2 ^ 54 := by rw [← pow_add]
      have power : (2 : ℚ) ^ 50 ≤ 2 ^ 970 := pow_le_pow_right₀ (by norm_num) (by norm_num)
      calc (10 ^ 15 : ℚ) ≤ 2 ^ 50 := by norm_num
        _ ≤ 2 ^ 970 := power
        _ ≤ 2 ^ 970 * (2 ^ 54 - 1) := le_mul_of_one_le_right (by positivity) (by norm_num)
        _ = 2 ^ 1024 - 2 ^ 970 := by rw [mul_sub, mul_one, ← step]
    have cast : (count : ℚ) ≤ 10 ^ 15 := by exact_mod_cast bound
    linarith
  rw [ExactFloat.ofRat, abs_of_nonneg nonnegative, if_neg (not_le.mpr upper)]
  split
  next tiny =>
    -- A tenth is not that small.
    rcases Nat.eq_zero_or_pos count with rfl | positive
    · norm_num
    · have cast : (1 : ℚ) ≤ count := by exact_mod_cast positive
      have least : ExactFloat.underflowBound < 1 / 10 := by
        have power : (2 : ℚ) ^ 4 ≤ 2 ^ 1075 := pow_le_pow_right₀ (by norm_num) (by norm_num)
        rw [ExactFloat.underflowBound]
        exact one_div_lt_one_div_of_lt (by norm_num)
          ((by norm_num : (10 : ℚ) < 2 ^ 4).trans_le power)
      linarith
  next => rfl

def tenths : NumberFormat where
  print value := tenthsText (tenthsOf value)
  denotes value := .float (.finite (tenthsOf value / 10))
  reads value rest ends := by
    have bound : tenthsOf value ≤ 10 ^ 15 := min_le_right _ _
    rw [scanNumber_tenthsText _ ends, ofRat_tenths bound]
  visible _ := visible_tenthsText _

end JsonWriter

end Python
