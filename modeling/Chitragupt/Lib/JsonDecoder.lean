import Chitragupt.Lib.Python

/-!
# Decoding JSON text

The decoder behind `json.loads`.  The scanner opens and closes containers on an
explicit stack, whose depth the interpreter bounds; every step consumes a code
point, so the length of the text bounds the number of steps.
-/

namespace Python

def jsonDecodeError (message : String) : PyError := ⟨.jsonDecodeError, message⟩

namespace JsonDecoder

/-! ## Strings -/

/-- The value of a hexadecimal digit. -/
def hexDigit (code : Nat) : Option Nat :=
  if 48 ≤ code ∧ code ≤ 57 then some (code - 48)
  else if 97 ≤ code ∧ code ≤ 102 then some (code - 87)
  else if 65 ≤ code ∧ code ≤ 70 then some (code - 55)
  else none

/-- Four hexadecimal digits at the start of a text. -/
def hexUnit : Text → Option (Nat × Text)
  | first :: second :: third :: fourth :: rest => do
      let unit ← [first, second, third, fourth].foldlM
        (fun value code => (hexDigit code).map (value * 16 + ·)) 0
      return (unit, rest)
  | _ => none

/-- The second half of a surrogate pair, when the text goes on with one. -/
def lowSurrogate : Text → Option (Nat × Text)
  | 92 :: 117 :: rest =>
      match hexUnit rest with
      | some (unit, rest) =>
          if 0xDC00 ≤ unit ∧ unit ≤ 0xDFFF then some (unit, rest) else none
      | none => none
  | _ => none

/-- The code point behind a backslash. -/
def escape : Text → Except PyError (Nat × Text)
  | [] => .error (jsonDecodeError "Unterminated string starting at")
  | 117 :: rest =>
      match hexUnit rest with
      | none => .error (jsonDecodeError "Invalid \\uXXXX escape")
      | some (unit, rest) =>
          if 0xD800 ≤ unit ∧ unit ≤ 0xDBFF then
            match lowSurrogate rest with
            | some (low, rest) =>
                .ok (0x10000 + (unit - 0xD800) * 0x400 + (low - 0xDC00), rest)
            | none => .ok (unit, rest)
          else
            .ok (unit, rest)
  | code :: rest =>
      -- The quote, the backslash, the slash, and the five control characters.
      match [(34, 34), (92, 92), (47, 47), (98, 8), (102, 12), (110, 10), (114, 13),
          (116, 9)].lookup code with
      | some plain => .ok (plain, rest)
      | none => .error (jsonDecodeError "Invalid \\escape")

/-- The rest of a string behind its opening quote. -/
def scanString : Nat → Text → Except PyError (Text × Text)
  | _, [] => .error (jsonDecodeError "Unterminated string starting at")
  | _, 34 :: rest => .ok ([], rest)
  | 0, _ :: _ => .error (jsonDecodeError "Unterminated string starting at")
  | fuel + 1, 92 :: rest => do
      let (code, rest) ← escape rest
      let (codes, rest) ← scanString fuel rest
      return (code :: codes, rest)
  | fuel + 1, code :: rest => do
      if code < 32 then throw (jsonDecodeError "Invalid control character at")
      let (codes, rest) ← scanString fuel rest
      return (code :: codes, rest)

/-! ## Numbers -/

def isDigit (code : Nat) : Bool := 48 ≤ code && code ≤ 57

/-- The number that decimal digits stand for. -/
def ofDigits (digits : List Nat) : Nat :=
  digits.foldl (fun value digit => value * 10 + digit) 0

/-- The greatest number of digits that the interpreter converts to an integer. -/
def maxStrDigits : Nat := 4300

/-- The leading digits of a text. -/
def spanDigits (text : Text) : List Nat × Text :=
  let (digits, rest) := text.span isDigit
  (digits.map (· - 48), rest)

/-- The fraction of a number, when one follows. -/
def fraction : Text → Option (List Nat × Text)
  | 46 :: rest =>
      match spanDigits rest with
      | ([], _) => none
      | found => some found
  | _ => none

/-- The exponent of a number, when one follows. -/
def exponent : Text → Option (Int × Text)
  | code :: rest =>
      if code = 101 ∨ code = 69 then
        let (negative, rest) :=
          match rest with
          | 45 :: rest => (true, rest)
          | 43 :: rest => (false, rest)
          | rest => (false, rest)
        match spanDigits rest with
        | ([], _) => none
        | (digits, rest) =>
            some (if negative then -(ofDigits digits : Int) else ofDigits digits, rest)
      else
        none
  | [] => none

/-- The rational with a sign, whole and fractional digits and a decimal exponent. -/
def decimal (negative : Bool) (whole fractional : List Nat) (exponent : Int) : ℚ :=
  let magnitude := (ofDigits (whole ++ fractional) : ℚ) *
    (10 : ℚ) ^ (exponent - fractional.length)
  if negative then -magnitude else magnitude

/-- A number at the start of a text. -/
def scanNumber (text : Text) : Except PyError (Json × Text) :=
  let (negative, rest) :=
    match text with
    | 45 :: rest => (true, rest)
    | rest => (false, rest)
  let (whole, rest) :=
    match rest with
    | 48 :: rest => ([0], rest)
    | rest => spanDigits rest
  if whole = [] then .error (jsonDecodeError "Expecting value")
  else
    match fraction rest, exponent rest with
    | none, none =>
        if maxStrDigits < whole.length then
          .error (.valueError
            "Exceeds the limit (4300 digits) for integer string conversion")
        else
          .ok (.int (if negative then -(ofDigits whole : Int) else ofDigits whole), rest)
    | some (fractional, rest), _ =>
        match exponent rest with
        | some (power, rest) =>
            .ok (.float (.ofRat (decimal negative whole fractional power)), rest)
        | none => .ok (.float (.ofRat (decimal negative whole fractional 0)), rest)
    | none, some (power, rest) =>
        .ok (.float (.ofRat (decimal negative whole [] power)), rest)

/-! ## Values -/

/-- An open container: the items so far, or the entries so far and the key of the
next one. -/
inductive Frame where
  | items (done : List Json)
  | entries (done : List (Text × Json)) (key : Text)

/-- What one step of the scanner leaves: a container just opened or continued, or a
finished value. -/
inductive Scan where
  | opened (frame : Frame) (rest : Text)
  | complete (value : Json) (rest : Text)

/-- The text after a step. -/
def Scan.rest : Scan → Text
  | .opened _ rest => rest
  | .complete _ rest => rest

/-- Skip blanks, tabs and line ends. -/
def skip (text : Text) : Text :=
  text.dropWhile fun code => code == 32 || code == 9 || code == 10 || code == 13

/-- The literals, each with its value. -/
def literals : List (Text × Json) :=
  [ (.ofString "null", .null),
    (.ofString "true", .bool true),
    (.ofString "false", .bool false),
    (.ofString "NaN", .float .nan),
    (.ofString "Infinity", .float (.infinite false)),
    (.ofString "-Infinity", .float (.infinite true)) ]

/-- The text behind a prefix. -/
def dropPrefix? (start text : Text) : Option Text :=
  if start.isPrefixOf text then some (text.drop start.length) else none

/-- A key with its colon, up to the value. -/
def scanKey (done : List (Text × Json)) : Text → Except PyError Scan
  | 34 :: rest => do
      let (key, rest) ← scanString rest.length rest
      match skip rest with
      | 58 :: rest => return .opened (.entries done key) (skip rest)
      | _ => throw (jsonDecodeError "Expecting ':' delimiter")
  | _ => .error (jsonDecodeError "Expecting property name enclosed in double quotes")

def recursionError : PyError :=
  ⟨.recursionError, "maximum recursion depth exceeded while decoding JSON"⟩

/-- The start of a value; `room` is the depth still available to containers. -/
def scanOnce (room : Nat) (text : Text) : Except PyError Scan :=
  match text with
  | 34 :: rest => do
      let (value, rest) ← scanString rest.length rest
      return .complete (.str value) rest
  | 123 :: rest =>
      if room = 0 then .error recursionError
      else
        match skip rest with
        | 125 :: rest => .ok (.complete (.dict []) rest)
        | rest => scanKey [] rest
  | 91 :: rest =>
      if room = 0 then .error recursionError
      else
        match skip rest with
        | 93 :: rest => .ok (.complete (.list []) rest)
        | rest => .ok (.opened (.items []) rest)
  | text =>
      match literals.findSome? fun (literal, value) =>
          (dropPrefix? literal text).map fun rest => Scan.complete value rest with
      | some scan => .ok scan
      | none => do
          let (value, rest) ← scanNumber text
          return .complete value rest

/-- A value has ended inside a container: continue or close it. -/
def resume (frame : Frame) (value : Json) (text : Text) : Except PyError Scan :=
  match frame, skip text with
  | .items done, 44 :: rest => .ok (.opened (.items (done ++ [value])) (skip rest))
  | .items done, 93 :: rest => .ok (.complete (.list (done ++ [value])) rest)
  | .entries done key, 44 :: rest => scanKey (assign key value done) (skip rest)
  | .entries done key, 125 :: rest => .ok (.complete (.dict (assign key value done)) rest)
  | _, _ => .error (jsonDecodeError "Expecting ',' delimiter")

/-- Run the scanner until the outermost value has ended. -/
def decode (room : Nat) : Nat → List Frame → Scan → Except PyError (Json × Text)
  | _, [], .complete value rest => .ok (value, rest)
  | 0, _, _ => .error recursionError
  | fuel + 1, frame :: stack, .complete value rest => do
      decode room fuel stack (← resume frame value rest)
  | fuel + 1, stack, .opened frame rest => do
      decode room fuel (frame :: stack) (← scanOnce (room - (stack.length + 1)) rest)

/-! ## Every step consumes a code point -/

theorem length_skip_le (text : Text) : (skip text).length ≤ text.length :=
  (List.dropWhile_sublist _).length_le

theorem length_hexUnit {text rest : Text} {unit : Nat}
    (read : hexUnit text = some (unit, rest)) : rest.length < text.length := by
  match text, read with
  | first :: second :: third :: fourth :: tail, read =>
      simp only [hexUnit, Option.bind_eq_bind, Option.bind_eq_some_iff, Option.pure_def,
        Option.some.injEq, Prod.mk.injEq] at read
      have same : tail = rest := read.choose_spec.2.2
      rw [← same]
      simp only [List.length_cons]
      omega

theorem length_lowSurrogate {text rest : Text} {unit : Nat}
    (read : lowSurrogate text = some (unit, rest)) : rest.length < text.length := by
  unfold lowSurrogate at read
  split at read
  · split at read
    · next tail _ _ found =>
        have shorter := length_hexUnit found
        split at read <;> simp_all
        omega
    · cases read
  · cases read

theorem length_escape {text rest : Text} {code : Nat}
    (read : escape text = .ok (code, rest)) : rest.length < text.length := by
  unfold escape at read
  split at read
  · cases read
  · split at read
    · cases read
    · next tail unit after found =>
        have shorter := length_hexUnit found
        split at read
        · split at read
          · next low last second =>
              have := length_lowSurrogate second
              simp_all
              omega
          · simp_all
            omega
        · simp_all
          omega
  · split at read <;> simp_all

theorem length_scanString {fuel : Nat} {text codes rest : Text}
    (scanned : scanString fuel text = .ok (codes, rest)) : rest.length < text.length := by
  induction fuel, text using scanString.induct generalizing codes rest with
  | case1 fuel => simp [scanString] at scanned
  | case2 fuel tail =>
      simp only [scanString, Except.ok.injEq, Prod.mk.injEq] at scanned
      simp [← scanned.2]
  | case3 code tail closes => simp [scanString] at scanned
  | case4 fuel tail ih =>
      simp only [scanString, bind_eq_ok, pure_eq_ok, Prod.mk.injEq] at scanned
      rcases scanned with ⟨⟨code, after⟩, escaped, ⟨inner, last⟩, continued, -, rfl⟩
      have shorter := length_escape escaped
      have := ih after continued
      simp only [List.length_cons]
      omega
  | case5 fuel code tail notQuote notBackslash control =>
      rw [scanString] at scanned <;> simp_all [throw, throwThe, MonadExceptOf.throw, bind_eq_ok]
  | case6 fuel code tail notQuote notBackslash plain ih =>
      rw [scanString] at scanned
      · simp only [plain, if_false, bind_eq_ok, pure_eq_ok, Prod.mk.injEq] at scanned
        rcases scanned with ⟨⟨inner, last⟩, continued, -, rfl⟩
        have := ih continued
        simp only [List.length_cons]
        omega
      · exact notQuote
      · exact notBackslash

/-! ### Numbers and values -/

theorem length_spanDigits_le (text : Text) : (spanDigits text).2.length ≤ text.length := by
  simp only [spanDigits, List.span_eq_takeWhile_dropWhile]
  exact (List.dropWhile_sublist _).length_le

theorem length_spanDigits {text : Text} (found : (spanDigits text).1 ≠ []) :
    (spanDigits text).2.length < text.length := by
  simp only [spanDigits, List.span_eq_takeWhile_dropWhile] at found ⊢
  have parts := congrArg List.length (List.takeWhile_append_dropWhile (p := isDigit) (l := text))
  have positive : 0 < (text.takeWhile isDigit).length := by
    simpa [List.length_pos_iff] using found
  rw [List.length_append] at parts
  omega

theorem length_fraction {text rest : Text} {digits : List Nat}
    (read : fraction text = some (digits, rest)) : rest.length < text.length := by
  unfold fraction at read
  split at read
  · next tail =>
      have shorter := length_spanDigits_le tail
      split at read
      · cases read
      · rw [Option.some.inj read] at shorter
        exact Nat.lt_succ_of_le shorter
  · cases read

/-- A sign in front of an exponent leaves no more text than there was. -/
private theorem length_signed_le (text : Text) :
    (match text with
      | 45 :: rest => (true, rest)
      | 43 :: rest => (false, rest)
      | rest => (false, rest)).2.length ≤ text.length := by
  split <;> simp

theorem length_exponent {text rest : Text} {power : Int}
    (read : exponent text = some (power, rest)) : rest.length < text.length := by
  cases text with
  | nil => cases read
  | cons code tail =>
      simp only [exponent] at read
      split at read
      · split at read
        · cases read
        · next digits after _ spanned =>
            have shorter : after.length ≤ tail.length :=
              calc after.length
                  = (spanDigits _).2.length := (congrArg (·.2.length) spanned).symm
                _ ≤ _ := length_spanDigits_le _
                _ ≤ tail.length := length_signed_le tail
            cases read
            simp only [List.length_cons]
            omega
      · cases read

private theorem length_minus_le (text : Text) :
    (match text with
      | 45 :: rest => (true, rest)
      | rest => (false, rest)).2.length ≤ text.length := by
  split <;> simp

private theorem length_whole {text : Text}
    (found : (match text with
      | 48 :: rest => ([0], rest)
      | rest => spanDigits rest).1 ≠ []) :
    (match text with
      | 48 :: rest => ([0], rest)
      | rest => spanDigits rest).2.length < text.length := by
  split at found
  · simp
  · next other =>
      exact length_spanDigits found

theorem length_scanNumber {text rest : Text} {value : Json}
    (scanned : scanNumber text = .ok (value, rest)) : rest.length < text.length := by
  simp only [scanNumber] at scanned
  rcases ite_eq_iff.mp scanned with ⟨-, failed⟩ | ⟨found, scanned⟩
  · cases failed
  · have whole := (length_whole found).trans_le (length_minus_le text)
    split at scanned
    · rcases ite_eq_iff.mp scanned with ⟨-, failed⟩ | ⟨-, scanned⟩
      · cases failed
      · cases scanned
        exact whole
    · next fractional after _ behind =>
        have shorter := (length_fraction behind).trans whole
        split at scanned
        · next power last scaled =>
            cases scanned
            exact (length_exponent scaled).trans shorter
        · cases scanned
          exact shorter
    · next power last _ scaled =>
        cases scanned
        exact (length_exponent scaled).trans whole

theorem length_dropPrefix? {start text rest : Text} (left : start ≠ [])
    (dropped : dropPrefix? start text = some rest) : rest.length < text.length := by
  simp only [dropPrefix?, Option.ite_none_right_eq_some, List.isPrefixOf_iff_prefix,
    Option.some.injEq] at dropped
  have inside : start.length ≤ text.length := dropped.1.length_le
  have positive : 0 < start.length := List.length_pos_of_ne_nil left
  rw [← dropped.2, List.length_drop]
  omega

theorem literals_ne_nil {literal : Text} {value : Json}
    (listed : (literal, value) ∈ literals) : literal ≠ [] := by
  simp only [literals, List.mem_cons, Prod.mk.injEq, List.not_mem_nil, or_false] at listed
  rcases listed with ⟨rfl, -⟩ | ⟨rfl, -⟩ | ⟨rfl, -⟩ | ⟨rfl, -⟩ | ⟨rfl, -⟩ | ⟨rfl, -⟩ <;> decide

theorem length_scanKey {done : List (Text × Json)} {text : Text} {scan : Scan}
    (scanned : scanKey done text = .ok scan) : scan.rest.length < text.length := by
  unfold scanKey at scanned
  split at scanned
  · next tail =>
      rcases bind_eq_ok.mp scanned with ⟨⟨key, after⟩, read, continued⟩
      have shorter := length_scanString read
      have skipped := length_skip_le after
      dsimp only at continued
      split at continued
      · next value colon =>
          have again := length_skip_le value
          cases continued
          simp_all only [List.length_cons, Scan.rest]
          omega
      · cases continued
  · cases scanned

theorem length_scanOnce {room : Nat} {text : Text} {scan : Scan}
    (scanned : scanOnce room text = .ok scan) : scan.rest.length < text.length := by
  unfold scanOnce at scanned
  split at scanned
  · next tail =>
      rcases bind_eq_ok.mp scanned with ⟨⟨key, after⟩, read, continued⟩
      have shorter := length_scanString read
      cases continued
      simp only [Scan.rest, List.length_cons]
      omega
  · next tail =>
      have skipped := length_skip_le tail
      split at scanned
      · cases scanned
      · split at scanned
        · next after closes =>
            cases scanned
            simp_all only [List.length_cons, Scan.rest]
            omega
        · have shorter := length_scanKey scanned
          simp only [List.length_cons]
          omega
  · next tail =>
      have skipped := length_skip_le tail
      split at scanned
      · cases scanned
      · split at scanned
        · next after closes =>
            cases scanned
            simp_all only [List.length_cons, Scan.rest]
            omega
        · cases scanned
          simp only [Scan.rest, List.length_cons]
          omega
  · split at scanned
    · next found =>
        cases scanned
        rcases List.exists_of_findSome?_eq_some found with ⟨⟨literal, value⟩, listed, dropped⟩
        rcases Option.map_eq_some_iff.mp dropped with ⟨after, left, rfl⟩
        exact length_dropPrefix? (literals_ne_nil listed) left
    · rcases bind_eq_ok.mp scanned with ⟨⟨value, after⟩, read, continued⟩
      cases continued
      exact length_scanNumber read

theorem length_resume {frame : Frame} {value : Json} {text : Text} {scan : Scan}
    (resumed : resume frame value text = .ok scan) : scan.rest.length < text.length := by
  have skipped := length_skip_le text
  unfold resume at resumed
  split at resumed
  · next done after left =>
      have again := length_skip_le after
      cases resumed
      simp_all only [List.length_cons, Scan.rest]
      omega
  · next done after left =>
      cases resumed
      simp_all only [List.length_cons, Scan.rest]
      omega
  · next done key after left =>
      have again := length_skip_le after
      have shorter := length_scanKey resumed
      simp_all only [List.length_cons]
      omega
  · next done key after left =>
      cases resumed
      simp_all only [List.length_cons, Scan.rest]
      omega
  · cases resumed

/-- More steps than the text has code points change nothing. -/
theorem decode_add {room fuel : Nat} {stack : List Frame} {scan : Scan}
    (enough : scan.rest.length < fuel) (extra : Nat) :
    decode room (fuel + extra) stack scan = decode room fuel stack scan := by
  induction fuel generalizing stack scan with
  | zero => omega
  | succ fuel ih =>
      rw [Nat.succ_add]
      cases scan with
      | opened frame rest =>
          simp only [decode]
          cases next : scanOnce (room - (stack.length + 1)) rest with
          | error error => rfl
          | ok scan =>
              have shorter := length_scanOnce next
              exact ih (by simp only [Scan.rest] at enough; omega)
      | complete value rest =>
          cases stack with
          | nil => simp only [decode]
          | cons frame stack =>
              simp only [decode]
              cases next : resume frame value rest with
              | error error => rfl
              | ok scan =>
                  have shorter := length_resume next
                  exact ih (by simp only [Scan.rest] at enough; omega)

/-- The steps that `loads` grants are enough: any more leave its outcome as it is. -/
theorem decode_of_scanOnce {room : Nat} {text : Text} {first : Scan}
    (scanned : scanOnce room (skip text) = .ok first) (extra : Nat) :
    decode room (text.length + extra) [] first = decode room text.length [] first := by
  have shorter := length_scanOnce scanned
  have skipped := length_skip_le text
  exact decode_add (by omega) extra

end JsonDecoder

open JsonDecoder in
/-- `json.loads` with `room` levels of recursion left. -/
def loads (room : Nat) (text : Text) : Except PyError Json := do
  if text.head? = some 0xFEFF then
    throw (jsonDecodeError "Unexpected UTF-8 BOM (decode using utf-8-sig)")
  let first ← scanOnce room (skip text)
  let (value, rest) ← decode room text.length [] first
  if skip rest ≠ [] then throw (jsonDecodeError "Extra data")
  return value

end Python
