import Chitragupt.Lib.JsonOutcome
import Chitragupt.Pipeline.EntityExtractor

/-!
# The items of an entity reply

A reply is an array of items, and an item is well-formed when it has a type and a value that
are texts and a confidence that is a number.  The extractor takes an item by the truth of its
type and value and converts the confidence of each item inside one `try` block.
-/

namespace Chitragupt

open Python (PyError Json FirstError)

namespace EntityExtractor

/-! ## Well-formed items -/

/-- What a well-formed item says. -/
structure ItemReading where
  entityType : Text
  value : Text
  confidence : ExactFloat

/-- A text with at least one character. -/
def nonEmptyText : Json → Option Text
  | .str [] => none
  | .str text => some text
  | _ => none

/-- The number that a value of a reply stands for. -/
def number : Json → Option ExactFloat
  | .int value => some (.finite value)
  | .float value => some value
  | _ => none

/-- The reading of an item, if it is well-formed.  A missing confidence is certainty. -/
def readItem : Json → Option ItemReading
  | .dict entries => do
      let entityType ← (entries.lookup (.ofString "entity_type")).bind nonEmptyText
      let value ← (entries.lookup (.ofString "value")).bind nonEmptyText
      let confidence ← (entries.lookup (.ofString "confidence")).elim (some (.finite 1)) number
      return { entityType, value, confidence }
  | _ => none

/-- The entity has the type, the value and the confidence of the item. -/
structure Reads (entity : Entity) (reading : ItemReading) : Prop where
  entityType : entity.entityType = .str reading.entityType
  value : entity.value = .str reading.value
  confidence : entity.confidence = reading.confidence

/-- The text is an array of these items, for a decoder with enough room. -/
def IsArray (raw : Text) (items : List Json) : Prop :=
  ∃ room, Python.loads room raw = .ok (.list items)

/-- Of an array the well-formed items are returned, in order, and no other item is. -/
def IsolatesItems (recursionLimit : Nat) (raw : Text) (phase : Json) : Prop :=
  ∀ items, IsArray raw items → ∃ entities,
    parseEntities recursionLimit raw phase = .ok entities ∧
      List.Forall₂ Reads entities (items.filterMap readItem)

/-! ## What the extractor does with an item -/

/-- The item is an object with a type and a value that are true. -/
def Taken (item : Json) : Prop :=
  match item with
  | .dict _ =>
      (getField item "entity_type" (.ofString "")).truthy = true ∧
        (getField item "value" (.ofString "")).truthy = true
  | _ => False

instance : DecidablePred Taken := fun item => by
  cases item <;> unfold Taken <;> infer_instance

/-- The confidence of an item as the extractor converts it. -/
def confidenceOf (item : Json) : Except PyError ExactFloat :=
  (getField item "confidence" (.float (.finite 1))).toFloat

variable {phase item : Json}

/-- An item that is not taken is skipped. -/
theorem parseEntity_of_not_taken (skipped : ¬Taken item) : parseEntity phase item = .ok none := by
  cases item with
  | dict entries =>
      have blank : (!(getField (.dict entries) "entity_type" (.ofString "")).truthy ||
          !(getField (.dict entries) "value" (.ofString "")).truthy) = true := by
        simpa [Taken, Bool.not_eq_true, imp_iff_not_or] using skipped
      exact if_pos blank
  | _ => rfl

/-- An item that is taken gives an entity or the error of its confidence. -/
theorem parseEntity_of_taken (taken : Taken item) :
    parseEntity phase item = (confidenceOf item).map fun confidence => some {
      entityType := getField item "entity_type" (.ofString "")
      value := getField item "value" (.ofString "")
      confidence
      source := getField item "source" (.ofString "conversation")
      phase
      sourceChunkIds := [] } := by
  cases item with
  | dict entries =>
      have present : ¬(!(getField (.dict entries) "entity_type" (.ofString "")).truthy ||
          !(getField (.dict entries) "value" (.ofString "")).truthy) = true := by
        simpa [Taken] using taken
      refine (if_neg present).trans ?_
      change (confidenceOf (.dict entries)).bind _ = _
      cases confidenceOf (.dict entries) <;> rfl
  | _ => cases taken

/-- What a well-formed item has. -/
theorem readItem_eq_some {reading : ItemReading} :
    readItem item = some reading ↔
      ∃ entries, item = .dict entries ∧
        (entries.lookup (.ofString "entity_type")).bind nonEmptyText = some reading.entityType ∧
        (entries.lookup (.ofString "value")).bind nonEmptyText = some reading.value ∧
        (entries.lookup (.ofString "confidence")).elim (some (.finite 1)) number =
          some reading.confidence := by
  cases item with
  | dict entries =>
      rcases reading with ⟨entityType, value, confidence⟩
      simp [readItem, Option.bind_eq_some_iff]
  | _ => simp [readItem]

theorem nonEmptyText_eq_some {value : Json} {text : Text} :
    nonEmptyText value = some text ↔ value = .str text ∧ text ≠ [] := by
  cases value with
  | str found =>
      cases found with
      | nil => simp only [nonEmptyText, reduceCtorEq, Json.str.injEq, false_iff]; grind
      | cons code rest => simp only [nonEmptyText, Option.some.injEq, Json.str.injEq]; grind
  | _ => simp [nonEmptyText]

/-- A well-formed item is taken, with its type and its value. -/
theorem taken_of_readItem {reading : ItemReading} (read : readItem item = some reading) :
    Taken item ∧ getField item "entity_type" (.ofString "") = .str reading.entityType ∧
      getField item "value" (.ofString "") = .str reading.value := by
  rcases readItem_eq_some.mp read with ⟨entries, rfl, typed, valued, _⟩
  rcases Option.bind_eq_some_iff.mp typed with ⟨_, typed, isText⟩
  rcases Option.bind_eq_some_iff.mp valued with ⟨_, valued, isValue⟩
  rcases nonEmptyText_eq_some.mp isText with ⟨rfl, nonempty⟩
  rcases nonEmptyText_eq_some.mp isValue with ⟨rfl, present⟩
  have typeField : getField (.dict entries) "entity_type" (.ofString "") =
      .str reading.entityType := by rw [getField, typed]; rfl
  have valueField : getField (.dict entries) "value" (.ofString "") = .str reading.value := by
    rw [getField, valued]; rfl
  refine ⟨?_, typeField, valueField⟩
  rw [Taken, typeField, valueField]
  simpa [Json.truthy] using And.intro nonempty present

/-- A number is converted to itself, or is too large for a float. -/
theorem toFloat_of_number {value : Json} {stated : ExactFloat}
    (isNumber : number value = some stated) :
    value.toFloat = .ok stated ∨ ∃ error, value.toFloat = .error error ∧
      error.cls = .overflowError := by
  cases value with
  | int value =>
      cases isNumber
      unfold Json.toFloat
      dsimp only
      rcases ExactFloat.ofRat_intCast value with same | ⟨negative, large⟩
      · rw [same]
        exact .inl rfl
      · rw [large]
        exact .inr ⟨_, rfl, rfl⟩
  | float value =>
      cases isNumber
      exact .inl rfl
  | _ => cases isNumber

/-- The confidence of a well-formed item. -/
theorem confidenceOf_of_readItem {reading : ItemReading} (read : readItem item = some reading) :
    confidenceOf item = .ok reading.confidence ∨ ∃ error, confidenceOf item = .error error ∧
      error.cls = .overflowError := by
  rcases readItem_eq_some.mp read with ⟨entries, rfl, _, _, confident⟩
  rw [confidenceOf, getField]
  cases given : entries.lookup (.ofString "confidence") with
  | none =>
      rw [given, Option.elim_none, Option.some.injEq] at confident
      rw [← confident]
      exact .inl rfl
  | some value =>
      rw [given, Option.elim_some] at confident
      exact toFloat_of_number confident

/-! ## The whole array -/

/-- Every item that is taken is well-formed. -/
def TakesWellFormed (items : List Json) : Prop :=
  ∀ item ∈ items, Taken item → (readItem item).isSome = true

/-- The conversion of the confidences of the items that are taken. -/
def convertedConfidence (item : Json) : Except PyError (Option ExactFloat) :=
  if Taken item then (confidenceOf item).map some else .ok none

theorem convertedConfidence_eq_error {error : PyError} :
    convertedConfidence item = .error error ↔ Taken item ∧ confidenceOf item = .error error := by
  rw [convertedConfidence]
  by_cases taken : Taken item
  · rw [if_pos taken]
    cases confidenceOf item <;> simp [Except.map, taken]
  · simp [taken]

/-- An item is parsed exactly when its confidence is converted. -/
theorem parseEntity_eq_error {error : PyError} :
    parseEntity phase item = .error error ↔ convertedConfidence item = .error error := by
  rw [convertedConfidence_eq_error]
  by_cases taken : Taken item
  · rw [parseEntity_of_taken taken, and_iff_right taken]
    cases confidenceOf item <;> simp [Except.map]
  · simp [parseEntity_of_not_taken taken, taken]

/-- An item gives an entity when it is taken, and its reading when it is well-formed. -/
theorem of_parseEntity {result : Option Entity} (parsed : parseEntity phase item = .ok result) :
    (result.isSome = true ↔ Taken item) ∧
      ∀ reading, readItem item = some reading → ∃ entity, result = some entity ∧
        Reads entity reading := by
  by_cases taken : Taken item
  · rw [parseEntity_of_taken taken] at parsed
    cases converted : confidenceOf item with
    | error error =>
        rw [converted] at parsed
        cases parsed
    | ok confidence =>
        rw [converted] at parsed
        cases parsed
        refine ⟨iff_of_true rfl taken, fun reading read => ⟨_, rfl, ?_⟩⟩
        rcases taken_of_readItem read with ⟨_, typed, valued⟩
        rcases confidenceOf_of_readItem read with same | ⟨_, failed, _⟩
        · exact ⟨typed, valued, Except.ok.inj (converted.symm.trans same)⟩
        · rw [converted] at failed
          cases failed
  · rw [parseEntity_of_not_taken taken] at parsed
    cases parsed
    refine ⟨iff_of_false Bool.false_ne_true taken, fun reading read => ?_⟩
    exact absurd (taken_of_readItem read).1 taken

section Parsed

variable {items : List Json} {results : List (Option Entity)}
  (parsed : List.Forall₂ (fun item result => parseEntity phase item = .ok result) items results)
include parsed

theorem length_parsed : (results.filterMap id).length = (items.filter (Taken ·)).length := by
  induction parsed with
  | nil => rfl
  | @cons item result _ _ first _ ih =>
      have takenIff := (of_parseEntity first).1
      cases result with
      | none =>
          have skipped : ¬Taken item := mt takenIff.mpr Bool.false_ne_true
          simpa [skipped] using ih
      | some entity =>
          have taken : Taken item := takenIff.mp rfl
          simpa [taken] using ih

/-- The entities are the readings when nothing else is taken. -/
theorem forall₂_reads (wellFormed : TakesWellFormed items) :
    List.Forall₂ Reads (results.filterMap id) (items.filterMap readItem) := by
  induction parsed with
  | nil => exact .nil
  | @cons item result _ _ first _ ih =>
      rw [TakesWellFormed, List.forall_mem_cons] at wellFormed
      have rest := ih wellFormed.2
      have step := of_parseEntity first
      cases read : readItem item with
      | none =>
          have skipped : ¬Taken item := fun taken => by simpa [read] using wellFormed.1 taken
          have nothing : result = none := by
            simpa [← step.1] using skipped
          simpa [nothing, read] using rest
      | some reading =>
          rcases step.2 reading read with ⟨entity, rfl, reads⟩
          simpa [read] using ⟨reads, rest⟩

/-- When something else is taken, there are more entities than readings. -/
theorem takesWellFormed_of_forall₂
    (reads : List.Forall₂ Reads (results.filterMap id) (items.filterMap readItem)) :
    TakesWellFormed items := by
  have lengths := reads.length_eq
  rw [length_parsed parsed, List.length_filterMap_eq_countP, List.countP_eq_length_filter]
    at lengths
  have inside : (items.filter fun item => (readItem item).isSome).Sublist
      (items.filter (Taken ·)) := by
    apply List.monotone_filter_right
    intro item some
    rcases Option.isSome_iff_exists.mp some with ⟨reading, read⟩
    exact decide_eq_true (taken_of_readItem read).1
  have same := inside.eq_of_length lengths.symm
  intro item member taken
  have kept : item ∈ items.filter (Taken ·) := List.mem_filter.mpr ⟨member, decide_eq_true taken⟩
  rw [← same] at kept
  exact (List.mem_filter.mp kept).2

end Parsed

/-- The extractor takes nothing for an entity but the well-formed items, and converts the
confidence of each. -/
def TakesItems (items : List Json) : Prop :=
  TakesWellFormed items ∧
    ∀ item ∈ items, Taken item → ∃ confidence, confidenceOf item = .ok confidence

/-- The array has no well-formed item, and the first confidence that is not converted raises
an exception that is caught. -/
def RejectsItems (items : List Json) : Prop :=
  items.filterMap readItem = [] ∧ ∃ item error, FirstError convertedConfidence items item error ∧
    (error.isValueError || error.cls == .typeError) = true

theorem parseEntities_of_loads {recursionLimit : Nat} {raw : Text} {items : List Json}
    (loaded : Python.loads recursionLimit raw = .ok (.list items)) (phase : Json) :
    parseEntities recursionLimit raw phase =
      match items.mapM (parseEntity phase) with
      | .ok results => .ok (results.filterMap id)
      | .error error =>
          if error.isValueError || error.cls == .typeError then .ok [] else .error error := by
  rw [parseEntities, loaded]
  simp only [bind, Except.bind]
  cases items.mapM (parseEntity phase) <;> rfl

/-- The first confidence that is not converted ends the parsing. -/
theorem exists_firstError_iff (phase : Json) {items : List Json} {error : PyError} :
    (∃ item, FirstError convertedConfidence items item error) ↔
      items.mapM (parseEntity phase) = .error error := by
  rw [Python.mapM_eq_error]
  constructor
  · rintro ⟨item, first⟩
    exact ⟨item, first.congr fun _ _ => parseEntity_eq_error.symm⟩
  · rintro ⟨item, first⟩
    exact ⟨item, first.congr fun _ _ => parseEntity_eq_error⟩

section Outcomes

variable {items : List Json}

theorem not_rejectsItems_of_ok {results : List (Option Entity)}
    (parsed : items.mapM (parseEntity phase) = .ok results) : ¬RejectsItems items := by
  rintro ⟨_, item, error, first, _⟩
  have failed := (exists_firstError_iff phase).mp ⟨item, first⟩
  rw [parsed] at failed
  cases failed

/-- The entities of an array that is parsed are the readings. -/
theorem takesItems_iff_of_ok {results : List (Option Entity)}
    (parsed : items.mapM (parseEntity phase) = .ok results) :
    TakesItems items ↔
      List.Forall₂ Reads (results.filterMap id) (items.filterMap readItem) := by
  have pairs := Python.mapM_eq_ok.mp parsed
  have converts : ∀ item ∈ items, Taken item → ∃ c, confidenceOf item = .ok c := by
    intro item member taken
    rcases Python.exists_ok_of_mapM parsed item member with ⟨result, done⟩
    rw [parseEntity_of_taken taken] at done
    cases converted : confidenceOf item with
    | ok confidence => exact ⟨confidence, rfl⟩
    | error error =>
        rw [converted] at done
        cases done
  rw [TakesItems, and_iff_left converts]
  exact ⟨forall₂_reads pairs, takesWellFormed_of_forall₂ pairs⟩

theorem not_takesItems_of_error {error : PyError}
    (parsed : items.mapM (parseEntity phase) = .error error) : ¬TakesItems items := by
  rintro ⟨_, converts⟩
  rcases (exists_firstError_iff phase).mpr parsed with ⟨item, first⟩
  rcases convertedConfidence_eq_error.mp first.failed with ⟨taken, rejected⟩
  rcases converts item first.mem taken with ⟨confidence, converted⟩
  rw [rejected] at converted
  cases converted

/-- The error that ends the parsing is the one that is caught. -/
theorem rejectsItems_iff_of_error {error : PyError}
    (parsed : items.mapM (parseEntity phase) = .error error) :
    RejectsItems items ↔ items.filterMap readItem = [] ∧
      (error.isValueError || error.cls == .typeError) = true := by
  have errors (other : PyError) :
      (∃ item, FirstError convertedConfidence items item other) ↔ error = other := by
    rw [exists_firstError_iff phase, parsed, Except.error.injEq]
  refine and_congr_right fun _ => ?_
  rw [exists_comm]
  simp only [exists_and_right, errors, exists_eq_left']

/-- When a decoded array is isolated. -/
theorem isolates_iff_of_loads {recursionLimit : Nat} {raw : Text}
    (loaded : Python.loads recursionLimit raw = .ok (.list items)) (phase : Json) :
    (∃ entities, parseEntities recursionLimit raw phase = .ok entities ∧
      List.Forall₂ Reads entities (items.filterMap readItem)) ↔
      TakesItems items ∨ RejectsItems items := by
  rw [parseEntities_of_loads loaded]
  cases parsed : items.mapM (parseEntity phase) with
  | ok results =>
      rw [or_iff_left (not_rejectsItems_of_ok parsed), takesItems_iff_of_ok parsed]
      simp
  | error error =>
      rw [or_iff_right (not_takesItems_of_error parsed), rejectsItems_iff_of_error parsed]
      dsimp only
      by_cases caught : (error.isValueError || error.cls == .typeError) = true
      · rw [if_pos caught, and_iff_left caught]
        simp
      · rw [if_neg caught]
        exact iff_of_false (by simp) fun rejects => caught rejects.2

end Outcomes

/-- A well-formed item, and one whose confidence is a word. -/
def sampleReply : Text :=
  Text.ofString "[\x7b\"entity_type\": \"actor\", \"value\": \"CFO\"\x7d, " ++ Text.ofString
    "\x7b\"entity_type\": \"actor\", \"value\": \"CTO\", \"confidence\": \"high\"\x7d]"

def sampleItems : List Json :=
  [ .dict [(.ofString "entity_type", .ofString "actor"), (.ofString "value", .ofString "CFO")],
    .dict [(.ofString "entity_type", .ofString "actor"), (.ofString "value", .ofString "CTO"),
      (.ofString "confidence", .ofString "high")] ]

end EntityExtractor

end Chitragupt
