import Chitragupt.Lib.JsonDecoder

/-!
# Outcomes of the decoder

The decoder rejects a text with one of three exceptions.  The room for recursion decides
whether a text is read at all, and never how it is read.
-/

namespace Python

namespace JsonDecoder

/-! ## Exceptions -/

/-- What the decoder raises: an error in the text, a number with too many digits, or too
deep a text. -/
def Raises (error : PyError) : Prop :=
  error.cls = .jsonDecodeError ∨ error.cls = .valueError ∨ error = recursionError

theorem cls_of_escape {text : Text} {error : PyError} (failed : escape text = .error error) :
    error.cls = .jsonDecodeError := by
  unfold escape at failed
  split at failed
  · cases failed
    rfl
  · split at failed
    · cases failed
      rfl
    · split at failed
      · split at failed <;> cases failed
      · cases failed
  · split at failed
    · cases failed
    · cases failed
      rfl

theorem cls_of_scanString {fuel : Nat} {text : Text} {error : PyError}
    (failed : scanString fuel text = .error error) : error.cls = .jsonDecodeError := by
  induction fuel, text using scanString.induct with
  | case1 fuel =>
      rw [scanString] at failed
      cases failed
      rfl
  | case2 fuel tail =>
      rw [scanString] at failed
      cases failed
  | case3 code tail closes =>
      rw [scanString] at failed
      · cases failed
        rfl
      · exact closes
  | case4 fuel tail ih =>
      simp only [scanString, bind_eq_error] at failed
      rcases failed with escaped | ⟨⟨code, rest⟩, _, scanned | ⟨_, _, done⟩⟩
      · exact cls_of_escape escaped
      · exact ih rest scanned
      · cases done
  | case5 fuel code tail notQuote notBackslash control =>
      rw [scanString] at failed
      · simp only [control, if_true] at failed
        cases failed
        rfl
      · exact notQuote
      · exact notBackslash
  | case6 fuel code tail notQuote notBackslash plain ih =>
      rw [scanString] at failed
      · simp only [plain, if_false, bind_eq_error] at failed
        rcases failed with scanned | ⟨_, _, done⟩
        · exact ih scanned
        · cases done
      · exact notQuote
      · exact notBackslash

theorem raises_of_scanNumber {text : Text} {error : PyError}
    (failed : scanNumber text = .error error) : Raises error := by
  simp only [scanNumber] at failed
  rcases ite_eq_iff.mp failed with ⟨-, missing⟩ | ⟨-, failed⟩
  · cases missing
    exact .inl rfl
  · split at failed
    · rcases ite_eq_iff.mp failed with ⟨-, long⟩ | ⟨-, read⟩
      · cases long
        exact .inr (.inl rfl)
      · cases read
    · split at failed <;> cases failed
    · cases failed

theorem cls_of_scanKey {done : List (Text × Json)} {text : Text} {error : PyError}
    (failed : scanKey done text = .error error) : error.cls = .jsonDecodeError := by
  unfold scanKey at failed
  split at failed
  · rcases bind_eq_error.mp failed with scanned | ⟨⟨key, after⟩, _, failed⟩
    · exact cls_of_scanString scanned
    · dsimp only at failed
      split at failed <;> cases failed
      rfl
  · cases failed
    rfl

theorem raises_of_scanOnce {room : Nat} {text : Text} {error : PyError}
    (failed : scanOnce room text = .error error) : Raises error := by
  unfold scanOnce at failed
  split at failed
  · rcases bind_eq_error.mp failed with scanned | ⟨_, _, done⟩
    · exact .inl (cls_of_scanString scanned)
    · cases done
  · split at failed
    · cases failed
      exact .inr (.inr rfl)
    · split at failed
      · cases failed
      · exact .inl (cls_of_scanKey failed)
  · split at failed
    · cases failed
      exact .inr (.inr rfl)
    · split at failed <;> cases failed
  · split at failed
    · cases failed
    · rcases bind_eq_error.mp failed with scanned | ⟨_, _, done⟩
      · exact raises_of_scanNumber scanned
      · cases done

theorem cls_of_resume {frame : Frame} {value : Json} {text : Text} {error : PyError}
    (failed : resume frame value text = .error error) : error.cls = .jsonDecodeError := by
  unfold resume at failed
  split at failed
  · cases failed
  · cases failed
  · exact cls_of_scanKey failed
  · cases failed
  · cases failed
    rfl

theorem raises_of_decode {room fuel : Nat} {stack : List Frame} {scan : Scan} {error : PyError}
    (failed : decode room fuel stack scan = .error error) : Raises error := by
  induction fuel generalizing stack scan with
  | zero =>
      cases scan with
      | opened frame rest =>
          simp only [decode] at failed
          cases failed
          exact .inr (.inr rfl)
      | complete value rest =>
          cases stack with
          | nil => cases failed
          | cons frame stack =>
              cases failed
              exact .inr (.inr rfl)
  | succ fuel ih =>
      cases scan with
      | opened frame rest =>
          rw [decode] at failed
          rcases bind_eq_error.mp failed with scanned | ⟨_, _, failed⟩
          · exact raises_of_scanOnce scanned
          · exact ih failed
      | complete value rest =>
          cases stack with
          | nil => cases failed
          | cons frame stack =>
              rcases bind_eq_error.mp failed with resumed | ⟨_, _, failed⟩
              · exact .inl (cls_of_resume resumed)
              · exact ih failed

end JsonDecoder

open JsonDecoder

/-- The exceptions of `json.loads`. -/
theorem raises_of_loads {room : Nat} {text : Text} {error : PyError}
    (failed : loads room text = .error error) : Raises error := by
  unfold loads at failed
  split at failed
  · cases failed
    exact .inl rfl
  · rcases bind_eq_error.mp failed with scanned | ⟨first, _, failed⟩
    · exact raises_of_scanOnce scanned
    · rcases bind_eq_error.mp failed with decoded | ⟨⟨value, rest⟩, _, failed⟩
      · exact raises_of_decode decoded
      · dsimp only at failed
        split at failed <;> cases failed
        exact .inl rfl

/-- Of them only the one about the depth is no `ValueError`. -/
theorem isValueError_of_loads {room : Nat} {text : Text} {error : PyError}
    (failed : loads room text = .error error) (shallow : error ≠ recursionError) :
    error.isValueError = true := by
  rcases raises_of_loads failed with decode | value | deep
  · simp [PyError.isValueError, decode]
  · simp [PyError.isValueError, value]
  · exact absurd deep shallow

/-! ## Room for recursion -/

namespace JsonDecoder

/-- With other room a computation has the same result or is out of room. -/
def SameOrDeep {α : Type} (result : α) (computed : Except PyError α) : Prop :=
  computed = .ok result ∨ computed = .error recursionError

/-- And so have two computations in sequence. -/
theorem SameOrDeep.bind {α β : Type} {value : α} {result : β} {computed : Except PyError α}
    {next : α → Except PyError β} (first : SameOrDeep value computed)
    (continued : SameOrDeep result (next value)) : SameOrDeep result (computed >>= next) := by
  rcases first with rfl | rfl
  · exact continued
  · exact .inr rfl

/-- Containers are read when there is room. -/
theorem SameOrDeep.of_room {α : Type} {room other : Nat} {computed : Except PyError α}
    {result : α} (done : (if room = 0 then .error recursionError else computed) = .ok result) :
    SameOrDeep result (if other = 0 then .error recursionError else computed) := by
  rcases ite_eq_iff.mp done with ⟨-, failed⟩ | ⟨-, done⟩
  · cases failed
  · by_cases full : other = 0
    · exact .inr (if_pos full)
    · exact .inl ((if_neg full).trans done)

theorem scanOnce_room {room : Nat} {text : Text} {scan : Scan}
    (scanned : scanOnce room text = .ok scan) (other : Nat) :
    SameOrDeep scan (scanOnce other text) := by
  unfold scanOnce at scanned ⊢
  split at scanned
  · exact .inl scanned
  · exact .of_room scanned
  · exact .of_room scanned
  · exact .inl scanned

theorem decode_room {room fuel : Nat} {stack : List Frame} {scan : Scan} {result : Json × Text}
    (decoded : decode room fuel stack scan = .ok result) (other : Nat) :
    SameOrDeep result (decode other fuel stack scan) := by
  induction fuel generalizing stack scan with
  | zero =>
      cases scan with
      | opened frame rest =>
          simp only [decode] at decoded
          cases decoded
      | complete value rest =>
          cases stack with
          | nil => exact .inl decoded
          | cons frame stack => cases decoded
  | succ fuel ih =>
      cases scan with
      | opened frame rest =>
          rw [decode] at decoded ⊢
          rcases bind_eq_ok.mp decoded with ⟨next, scanned, continued⟩
          exact (scanOnce_room scanned _).bind (ih continued)
      | complete value rest =>
          cases stack with
          | nil => exact .inl decoded
          | cons frame stack =>
              rcases bind_eq_ok.mp decoded with ⟨next, resumed, continued⟩
              exact SameOrDeep.bind (.inl resumed) (ih continued)

end JsonDecoder

/-- A text that is decoded with some room is decoded to the same value with any other, or is
too deep for it. -/
theorem loads_room {room : Nat} {text : Text} {value : Json} (loaded : loads room text = .ok value)
    (other : Nat) : SameOrDeep value (loads other text) := by
  unfold loads at loaded ⊢
  split at loaded
  · cases loaded
  next plain =>
    rw [if_neg plain]
    rcases bind_eq_ok.mp loaded with ⟨first, scanned, loaded⟩
    rcases bind_eq_ok.mp loaded with ⟨⟨found, rest⟩, decoded, loaded⟩
    exact (scanOnce_room scanned other).bind ((decode_room decoded other).bind (.inl loaded))

end Python
