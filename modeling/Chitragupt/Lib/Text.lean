import Mathlib.Data.List.Infix
import Mathlib.Data.Char

/-!
# Text as code points

A text is a sequence of Unicode code points.  Valid Unicode strings embed into it,
and so do strings with unpaired surrogates, which some languages admit.  The
module has operations that such languages share: search for a substring, and removal
of leading and trailing white space.
-/

/-- A string as its code points. -/
abbrev Text := List Nat

namespace Text

/-- The code points of a valid Unicode string. -/
def ofString (string : String) : Text := string.toList.map Char.toNat

theorem ofString_injective : Function.Injective ofString := by
  intro left right equal
  have codes : Function.Injective Char.toNat :=
    Function.LeftInverse.injective Char.ofNat_toNat
  have chars := List.map_injective_iff.mpr codes equal
  exact String.toList_inj.mp chars

@[simp] theorem ofString_inj {left right : String} :
    ofString left = ofString right ↔ left = right :=
  ofString_injective.eq_iff

theorem ofString_append (left right : String) :
    ofString (left ++ right) = ofString left ++ ofString right := by
  simp [ofString]

/-- A character is not in a string whose encoding lacks its bytes; a long string is
searched faster this way. -/
theorem notMem_ofString {character : Char} {string : String}
    (absent : ∀ byte ∈ String.utf8EncodeChar character,
      byte ∉ string.toByteArray.data.toList) : character.toNat ∉ ofString string := by
  intro member
  obtain ⟨other, inside, same⟩ := List.mem_map.mp member
  rw [Char.toNat_inj.mp same] at inside
  obtain ⟨byte, encoded⟩ := List.exists_mem_of_ne_nil _
    (String.utf8EncodeChar_ne_nil (c := character))
  apply absent byte encoded
  have bytes : byte ∈ string.toList.flatMap String.utf8EncodeChar :=
    List.mem_flatMap.mpr ⟨character, inside, encoded⟩
  rw [← String.ofList_toList (s := string), String.toByteArray_ofList]
  simpa [List.utf8Encode] using bytes

/-- The string with these code points, when none of them is a surrogate. -/
def toString? (text : Text) : Option String :=
  if text.all (fun code => Nat.isValidChar code) then
    some (String.ofList (text.map Char.ofNat))
  else
    none

@[simp] theorem toString?_ofString (string : String) :
    toString? (ofString string) = some string := by
  have valid : (ofString string).all (fun code => Nat.isValidChar code) = true := by
    rw [List.all_eq_true]
    intro code member
    rcases List.mem_map.mp member with ⟨char, _, rfl⟩
    exact decide_eq_true char.valid
  have back : (ofString string).map Char.ofNat = string.toList := by
    simp [ofString, Function.comp_def]
  rw [toString?, if_pos valid, back, String.ofList_toList]

/-- Only its own code points make up a string. -/
theorem toString?_eq_some {text : Text} {string : String} :
    toString? text = some string ↔ text = ofString string := by
  constructor
  · intro made
    rw [toString?, Option.ite_none_right_eq_some, List.all_eq_true] at made
    rcases made with ⟨valid, same⟩
    rcases Option.some.inj same with rfl
    rw [ofString, String.toList_ofList, List.map_map]
    refine (List.map_id text).symm.trans (List.map_congr_left fun code member => ?_)
    rw [Function.comp_apply, Char.ofNat, dif_pos (of_decide_eq_true (valid code member))]
    rfl
  · rintro rfl
    exact toString?_ofString string

/-- The first separator ends the part in front of it. -/
theorem append_separator_inj {separator : Nat} {left right rest other : Text}
    (leftPlain : separator ∉ left) (rightPlain : separator ∉ right) :
    left ++ separator :: rest = right ++ separator :: other ↔ left = right ∧ rest = other := by
  constructor
  · intro same
    induction left generalizing right with
    | nil =>
        cases right with
        | nil => exact ⟨rfl, List.tail_eq_of_cons_eq same⟩
        | cons code right =>
            have head : separator = code := List.head_eq_of_cons_eq same
            exact absurd (head ▸ List.mem_cons_self) rightPlain
    | cons code left ih =>
        cases right with
        | nil =>
            have head : code = separator := List.head_eq_of_cons_eq same
            exact absurd (head ▸ List.mem_cons_self) leftPlain
        | cons next right =>
            rw [List.cons_append, List.cons_append, List.cons.injEq] at same
            rw [List.mem_cons, not_or] at leftPlain rightPlain
            rcases ih leftPlain.2 rightPlain.2 same.2 with ⟨rfl, rfl⟩
            exact ⟨by rw [same.1], rfl⟩
  · rintro ⟨rfl, rfl⟩
    rfl

/-- The pieces of a joined text are those of its parts. -/
theorem mem_splitOn_intercalate {separator : Nat} {parts : List Text} (some : parts ≠ [])
    {piece : Text} :
    piece ∈ (List.intercalate [separator] parts).splitOn separator ↔
      ∃ part ∈ parts, piece ∈ part.splitOn separator := by
  induction parts with
  | nil => exact absurd rfl some
  | cons part rest ih =>
      cases rest with
      | nil => simp [List.intercalate_singleton]
      | cons next rest =>
          rw [List.intercalate_cons_cons, List.append_assoc, List.singleton_append,
            List.splitOn_append_cons_self, List.mem_append, ih (List.cons_ne_nil _ _)]
          simp

/-- Substring search. -/
def contains (text pattern : Text) : Bool := decide (pattern <:+: text)

/-- Replacement of a pattern, from left to right; `skip` code points of the last
match are still to be dropped. -/
def replaceFrom (pattern value : Text) : Nat → Text → Text
  | _, [] => []
  | skip + 1, _ :: rest => replaceFrom pattern value skip rest
  | 0, code :: rest =>
      if pattern.isPrefixOf (code :: rest) then
        value ++ replaceFrom pattern value (pattern.length - 1) rest
      else
        code :: replaceFrom pattern value 0 rest

/-- Replace every occurrence of a non-empty pattern. -/
def replace (text pattern value : Text) : Text := replaceFrom pattern value 0 text

/-! ## White space -/

/-- The Unicode property `White_Space`. -/
def isWhiteSpace (code : Nat) : Bool :=
  (9 ≤ code && code ≤ 13) || code == 0x20 || code == 0x85 || code == 0xA0 ||
    code == 0x1680 || (0x2000 ≤ code && code ≤ 0x200A) || code == 0x2028 ||
    code == 0x2029 || code == 0x202F || code == 0x205F || code == 0x3000

/-- Drop the leading and trailing members of a list that satisfy the predicate. -/
def trimBy {α : Type*} (drop : α → Bool) (values : List α) : List α :=
  ((values.dropWhile drop).reverse.dropWhile drop).reverse

end Text
