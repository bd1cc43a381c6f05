import Mathlib.Data.List.Forall2
import Chitragupt.Lib.ExactFloat
import Chitragupt.Lib.LetterCase

/-!
# Python values decoded from JSON

The values that `json.loads` returns, the exceptions of the interpreter, and the
built-in conversions that programs apply to such values without checking their
type first.
-/

namespace Python

/-! ## Exceptions -/

inductive ExceptionClass where
  | jsonDecodeError
  | valueError
  | typeError
  | keyError
  | attributeError
  | overflowError
  | recursionError
  | notImplementedError
  | timeoutError
  | cancelledError
  | other (name : String)
  deriving DecidableEq, Repr

structure PyError where
  cls : ExceptionClass
  message : String
  deriving DecidableEq, Repr

namespace PyError

/-- Caught by `except ValueError`. -/
def isValueError (error : PyError) : Bool :=
  error.cls == .valueError || error.cls == .jsonDecodeError

def typeError (message : String) : PyError := ⟨.typeError, message⟩

def valueError (message : String) : PyError := ⟨.valueError, message⟩

def attributeError (message : String) : PyError := ⟨.attributeError, message⟩

end PyError

/-- Sequenced computations succeed when both of them do. -/
@[simp] theorem bind_eq_ok {α β : Type} {computation : Except PyError α}
    {next : α → Except PyError β} {result : β} :
    computation >>= next = .ok result ↔
      ∃ value, computation = .ok value ∧ next value = .ok result := by
  cases computation with
  | error error => simp [bind, Except.bind]
  | ok value => simp [bind, Except.bind]

/-- They fail when the first of them does, or the second after it. -/
theorem bind_eq_error {α β : Type} {computation : Except PyError α}
    {next : α → Except PyError β} {error : PyError} :
    computation >>= next = .error error ↔
      computation = .error error ∨
        ∃ value, computation = .ok value ∧ next value = .error error := by
  cases computation <;> simp [bind, Except.bind]

@[simp] theorem pure_eq_ok {α : Type} {value result : α} :
    (pure value : Except PyError α) = .ok result ↔ value = result := by
  simp [pure, Except.pure]

@[simp] theorem toOption_eq_some {α : Type} {computed : Except PyError α} {value : α} :
    computed.toOption = some value ↔ computed = .ok value := by
  cases computed <;> simp [Except.toOption]

/-! ## Dictionaries -/

/-- Set a key of a dictionary, kept as the list of its entries in insertion order:
an existing key keeps its place. -/
def assign {κ α : Type*} [BEq κ] (key : κ) (value : α) : List (κ × α) → List (κ × α)
  | [] => [(key, value)]
  | (other, old) :: rest =>
      if key == other then (other, value) :: rest else (other, old) :: assign key value rest

section Assign

variable {κ α : Type*} [BEq κ] [LawfulBEq κ]

theorem lookup_assign_of_ne {key other : κ} (value : α) (entries : List (κ × α))
    (different : other ≠ key) :
    (assign key value entries).lookup other = entries.lookup other := by
  have apart : (other == key) = false := beq_eq_false_iff_ne.mpr different
  induction entries with
  | nil => simp [assign, List.lookup_cons, apart]
  | cons entry rest ih =>
      rcases entry with ⟨first, old⟩
      rw [assign]
      cases same : key == first with
      | true => simp [List.lookup_cons, ← eq_of_beq same, apart]
      | false =>
          rw [if_neg Bool.false_ne_true, List.lookup_cons, List.lookup_cons, ih]

@[simp] theorem lookup_assign_self (key : κ) (value : α) (entries : List (κ × α)) :
    (assign key value entries).lookup key = some value := by
  induction entries with
  | nil => simp [assign]
  | cons entry rest ih =>
      rcases entry with ⟨first, old⟩
      rw [assign]
      cases same : key == first with
      | true => simp [List.lookup_cons, same]
      | false =>
          rw [if_neg Bool.false_ne_true, List.lookup_cons, same]
          exact ih

/-- A new key goes to the end. -/
theorem map_fst_assign {key : κ} (value : α) {entries : List (κ × α)}
    (fresh : key ∉ entries.map Prod.fst) :
    (assign key value entries).map Prod.fst = entries.map Prod.fst ++ [key] := by
  induction entries with
  | nil => rfl
  | cons entry rest ih =>
      rcases entry with ⟨other, old⟩
      simp only [List.map_cons, List.mem_cons, not_or] at fresh
      have apart : (key == other) = false := beq_eq_false_iff_ne.mpr fresh.1
      rw [assign, if_neg (by simp [apart]), List.map_cons, ih fresh.2]
      rfl

/-- Distinct keys are all found. -/
theorem lookup_of_mem {entries : List (κ × α)} (distinct : (entries.map Prod.fst).Nodup)
    {key : κ} {value : α} (member : (key, value) ∈ entries) :
    entries.lookup key = some value := by
  induction entries with
  | nil => cases member
  | cons entry rest ih =>
      rcases entry with ⟨other, old⟩
      rw [List.map_cons, List.nodup_cons] at distinct
      rw [List.mem_cons, Prod.mk.injEq] at member
      rw [List.lookup_cons]
      rcases member with ⟨rfl, rfl⟩ | member
      · simp
      · have apart : (key == other) = false := by
          rw [beq_eq_false_iff_ne]
          rintro rfl
          have present : key ∈ rest.map Prod.fst := List.mem_map.mpr ⟨_, member, rfl⟩
          exact distinct.1 present
        simpa [apart] using ih distinct.2 member

end Assign

/-! ## Values -/

/-- A value that `json.loads` can return.  A dictionary keeps the insertion order
of its keys. -/
inductive Json where
  | null
  | bool (value : Bool)
  | int (value : Int)
  | float (value : ExactFloat)
  | str (value : Text)
  | list (items : List Json)
  | dict (entries : List (Text × Json))

namespace Json

/-- A string value from a valid Unicode string. -/
def ofString (value : String) : Json := .str (.ofString value)

/-- The type name that interpreter messages use. -/
def typeName : Json → String
  | .null => "NoneType"
  | .bool _ => "bool"
  | .int _ => "int"
  | .float _ => "float"
  | .str _ => "str"
  | .list _ => "list"
  | .dict _ => "dict"

/-- Comparison of a value with a string. -/
def isStr (value : Json) (text : Text) : Bool :=
  match value with
  | .str other => other == text
  | _ => false

@[simp] theorem isStr_str (left right : Text) :
    (Json.str left).isStr right = true ↔ left = right := by
  simp [isStr]

theorem isStr_eq_true {value : Json} {text : Text} :
    value.isStr text = true ↔ value = .str text := by
  cases value <;> simp [isStr]

/-- Truth value testing. -/
def truthy : Json → Bool
  | .null => false
  | .bool value => value
  | .int value => value != 0
  | .float value => value.truthy
  | .str value => !value.isEmpty
  | .list items => !items.isEmpty
  | .dict entries => !entries.isEmpty

/-- `value or default`. -/
def orElse (value default : Json) : Json := if value.truthy then value else default

/-- `value.get(key, default)`: only dictionaries have the method. -/
def get (value : Json) (key : String) (default : Json) : Except PyError Json :=
  match value with
  | .dict entries => .ok ((entries.lookup (.ofString key)).getD default)
  | other =>
      .error (.attributeError s!"'{other.typeName}' object has no attribute 'get'")

/-- `value[key]` with a string key. -/
def subscript (value : Json) (key : String) : Except PyError Json :=
  match value with
  | .dict entries =>
      match entries.lookup (.ofString key) with
      | some found => .ok found
      | none => .error ⟨.keyError, s!"'{key}'"⟩
  | .list _ => .error (.typeError "list indices must be integers or slices, not str")
  | .str _ => .error (.typeError "string indices must be integers, not 'str'")
  | other => .error (.typeError s!"'{other.typeName}' object is not subscriptable")

/-- `value[:n]`. -/
def takeFirst (count : Nat) (value : Json) : Except PyError Json :=
  match value with
  | .str text => .ok (.str (text.take count))
  | .list items => .ok (.list (items.take count))
  | .dict _ => .error (.typeError "unhashable type: 'slice'")
  | other => .error (.typeError s!"'{other.typeName}' object is not subscriptable")

/-- `len(value)`. -/
def len (value : Json) : Except PyError Nat :=
  match value with
  | .str text => .ok text.length
  | .list items => .ok items.length
  | .dict entries => .ok entries.length
  | other => .error (.typeError s!"object of type '{other.typeName}' has no len()")

/-- `text in value` for a string on the left. -/
def containsStr (value : Json) (text : Text) : Except PyError Bool :=
  match value with
  | .list items => .ok (items.any (·.isStr text))
  | .dict entries => .ok (entries.any (·.1 == text))
  | .str whole => .ok (whole.contains text)
  | other =>
      .error (.typeError s!"argument of type '{other.typeName}' is not iterable")

/-- `list(value)`. -/
def toList (value : Json) : Except PyError (List Json) :=
  match value with
  | .list items => .ok items
  | .dict entries => .ok (entries.map fun entry => .str entry.1)
  | .str text => .ok (text.map fun code => .str [code])
  | other => .error (.typeError s!"'{other.typeName}' object is not iterable")

/-- `value.lower()`. -/
def lower (value : Json) : Except PyError Text :=
  match value with
  | .str text => .ok (Text.lower text)
  | other =>
      .error (.attributeError s!"'{other.typeName}' object has no attribute 'lower'")

/-- The text of a string value, or the message of the operation that needs one. -/
def asStr (value : Json) (message : String) : Except PyError Text :=
  match value with
  | .str text => .ok text
  | _ => .error (.typeError message)

@[simp] theorem asStr_eq_ok {value : Json} {message : String} {text : Text} :
    value.asStr message = .ok text ↔ value = .str text := by
  cases value <;> simp [asStr]

end Json

/-- What holds of every result of a traversal. -/
theorem forall_mem_of_mapM {α β : Type} {convert : α → Except PyError β}
    {items : List α} {results : List β} (converted : items.mapM convert = .ok results)
    (property : β → Prop) :
    (∀ result ∈ results, property result) ↔
      ∀ item ∈ items, ∀ result, convert item = .ok result → property result := by
  induction items generalizing results with
  | nil =>
      rcases Except.ok.inj converted with rfl
      simp
  | cons item rest ih =>
      simp only [List.mapM_cons, bind_eq_ok, pure_eq_ok] at converted
      rcases converted with ⟨head, first, tail, others, rfl⟩
      rw [List.forall_mem_cons, List.forall_mem_cons, ih others, first]
      simp

/-- A traversal succeeds when every item does. -/
theorem mapM_eq_ok {α β : Type} {convert : α → Except PyError β} {items : List α}
    {results : List β} :
    items.mapM convert = .ok results ↔
      List.Forall₂ (fun item result => convert item = .ok result) items results := by
  induction items generalizing results with
  | nil =>
      rw [List.mapM_nil, pure_eq_ok, List.forall₂_nil_left_iff]
      exact eq_comm
  | cons item rest ih =>
      simp only [List.mapM_cons, bind_eq_ok, pure_eq_ok, List.forall₂_cons_left_iff, ih]
      constructor
      · rintro ⟨head, first, tail, others, rfl⟩
        exact ⟨head, tail, first, others, rfl⟩
      · rintro ⟨head, tail, first, others, rfl⟩
        exact ⟨head, first, tail, others, rfl⟩

theorem exists_ok_of_mapM {α β : Type} {convert : α → Except PyError β} {items : List α}
    {results : List β} (converted : items.mapM convert = .ok results) :
    ∀ item ∈ items, ∃ result, convert item = .ok result := by
  have pairs := mapM_eq_ok.mp converted
  clear converted
  induction pairs with
  | nil => nofun
  | cons first _ ih =>
      rw [List.forall_mem_cons]
      exact ⟨⟨_, first⟩, ih⟩

/-- The item fails, and no item before it does. -/
def FirstError {α β : Type} (convert : α → Except PyError β) (items : List α) (item : α)
    (error : PyError) : Prop :=
  ∃ before after, items = before ++ item :: after ∧
    (∀ other ∈ before, ∃ result, convert other = .ok result) ∧ convert item = .error error

theorem FirstError.mem {α β : Type} {convert : α → Except PyError β} {items : List α} {item : α}
    {error : PyError} (first : FirstError convert items item error) : item ∈ items := by
  rcases first with ⟨before, after, rfl, _⟩
  exact List.mem_append_right _ List.mem_cons_self

theorem FirstError.failed {α β : Type} {convert : α → Except PyError β} {items : List α}
    {item : α} {error : PyError} (first : FirstError convert items item error) :
    convert item = .error error := by
  rcases first with ⟨_, _, _, _, failed⟩
  exact failed

/-- A traversal fails with its first error. -/
theorem mapM_eq_error {α β : Type} {convert : α → Except PyError β} {items : List α}
    {error : PyError} :
    items.mapM convert = .error error ↔ ∃ item, FirstError convert items item error := by
  induction items with
  | nil => simp [FirstError, pure, Except.pure]
  | cons item rest ih =>
      rw [List.mapM_cons, bind_eq_error]
      constructor
      · rintro (failed | ⟨value, first, others⟩)
        · exact ⟨item, [], rest, rfl, nofun, failed⟩
        · rcases bind_eq_error.mp others with failed | ⟨_, _, done⟩
          · rcases ih.mp failed with ⟨culprit, before, after, rfl, passed, failed⟩
            refine ⟨culprit, item :: before, after, rfl, ?_, failed⟩
            rw [List.forall_mem_cons]
            exact ⟨⟨value, first⟩, passed⟩
          · cases done
      · rintro ⟨culprit, before, after, split, passed, failed⟩
        cases before with
        | nil =>
            rcases List.cons.inj split with ⟨rfl, rfl⟩
            exact .inl failed
        | cons head before =>
            rcases List.cons.inj split with ⟨rfl, rfl⟩
            rw [List.forall_mem_cons] at passed
            rcases passed.1 with ⟨value, first⟩
            have others := ih.mpr ⟨culprit, before, after, rfl, passed.2, failed⟩
            exact .inr ⟨value, first, bind_eq_error.mpr (.inl others)⟩

/-- The first error depends on the errors of the items only. -/
theorem FirstError.congr {α β γ : Type} {convert : α → Except PyError β}
    {other : α → Except PyError γ} {items : List α} {item : α} {error : PyError}
    (same : ∀ item error, convert item = .error error ↔ other item = .error error)
    (first : FirstError convert items item error) : FirstError other items item error := by
  rcases first with ⟨before, after, rfl, passed, failed⟩
  refine ⟨before, after, rfl, fun earlier member => ?_, (same item error).mp failed⟩
  rcases passed earlier member with ⟨result, done⟩
  cases outcome : other earlier with
  | ok result => exact ⟨result, rfl⟩
  | error error =>
      rw [(same earlier error).mpr outcome] at done
      cases done

theorem toOption_mapError {ε ε' α : Type} (convert : ε → ε')
    (computed : Except ε α) : (computed.mapError convert).toOption = computed.toOption := by
  cases computed <;> rfl

theorem mapError_eq_ok {ε ε' α : Type} {convert : ε → ε'} {computed : Except ε α}
    {value : α} : computed.mapError convert = .ok value ↔ computed = .ok value := by
  cases computed <;> simp [Except.mapError]

end Python
