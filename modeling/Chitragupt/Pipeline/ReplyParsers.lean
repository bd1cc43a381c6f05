import Chitragupt.Pipeline.EntityItems
import Chitragupt.Pipeline.GapAnalyzer
import Chitragupt.Pipeline.IntentClassifier

/-!
# When the parsers of replies return

Each parser lists the exceptions that it expects.  This module names the replies that raise
another one: a value of the wrong shape, a number out of range, or a text nested too deep.
-/

namespace Chitragupt

open Python (PyError Json FirstError)
open Python.JsonDecoder (recursionError)

variable {recursionLimit : Nat} {raw : Text} {phase : Json}

/-! ## The intent -/

namespace IntentClassifier

/-- The reply is an object, or no JSON text at all. -/
def Parses (recursionLimit : Nat) (raw : Text) : Prop :=
  (∃ entries, Python.loads recursionLimit raw = .ok (.dict entries)) ∨
    ∃ error, Python.loads recursionLimit raw = .error error ∧ error.cls = .jsonDecodeError

theorem defaultIntent_mem : defaultIntent ∈ validIntents := by decide

/-- A code that can be looked up gives a valid intent, any other one a caught error. -/
theorem findIntent_cases (code : Json) :
    (∃ intent ∈ validIntents, (findIntent code).map (·.getD defaultIntent) = .ok intent) ∨
      ∃ error, findIntent code = .error error ∧ error.cls = .typeError := by
  have found : ∃ intent ∈ validIntents,
      (validIntents.find? fun intent => code.isStr (.ofString intent)).getD defaultIntent =
        intent := by
    cases found : validIntents.find? fun intent => code.isStr (.ofString intent) with
    | none => exact ⟨defaultIntent, defaultIntent_mem, rfl⟩
    | some intent => exact ⟨intent, List.mem_of_find?_eq_some found, rfl⟩
  rcases found with ⟨intent, valid, same⟩
  cases code with
  | list items => exact .inr ⟨_, rfl, rfl⟩
  | dict entries => exact .inr ⟨_, rfl, rfl⟩
  | null | bool | int | float | str => exact .inl ⟨intent, valid, congrArg Except.ok same⟩

/-- What becomes of the outcome of the `try` block. -/
def recovered (parsed : Except PyError String) : Except PyError String :=
  match parsed with
  | .ok intent => .ok intent
  | .error error =>
      if error.cls = .jsonDecodeError ∨ error.cls = .typeError ∨ error.cls = .keyError then
        .ok defaultIntent
      else
        .error error

/-- An object has a valid intent, whatever its code. -/
theorem parseIntent_of_dict {entries : List (Text × Json)}
    (loaded : Python.loads recursionLimit raw = .ok (.dict entries)) :
    ∃ intent ∈ validIntents, parseIntent recursionLimit raw = .ok intent := by
  have parsed : parseIntent recursionLimit raw = recovered
      ((findIntent ((entries.lookup (.ofString "intent")).getD (.ofString defaultIntent))).map
        (·.getD defaultIntent)) := by
    rw [parseIntent, loaded]
    rfl
  rw [parsed]
  rcases findIntent_cases ((entries.lookup (.ofString "intent")).getD (.ofString defaultIntent))
    with ⟨intent, valid, found⟩ | ⟨error, failed, cls⟩
  · exact ⟨intent, valid, by rw [found, recovered]⟩
  · refine ⟨defaultIntent, defaultIntent_mem, ?_⟩
    rw [failed]
    exact if_pos (.inr (.inl cls))

theorem parseIntent_iff :
    (∃ intent ∈ validIntents, parseIntent recursionLimit raw = .ok intent) ↔
      Parses recursionLimit raw := by
  rw [Parses]
  cases loaded : Python.loads recursionLimit raw with
  | error error =>
      have parsed : parseIntent recursionLimit raw = recovered (.error error) := by
        rw [parseIntent, loaded]
        rfl
      simp only [reduceCtorEq, exists_false, false_or, Except.error.injEq, exists_eq_left']
      rw [parsed, recovered]
      rcases Python.raises_of_loads loaded with decode | value | rfl
      · exact iff_of_true ⟨defaultIntent, defaultIntent_mem, if_pos (.inl decode)⟩ decode
      · simp [value]
      · simp [recursionError]
  | ok data =>
      cases data with
      | dict entries =>
          exact iff_of_true (parseIntent_of_dict loaded) (.inl ⟨entries, rfl⟩)
      | _ =>
          -- Nothing else has a `get`, and its absence is not caught.
          refine iff_of_false ?_ (by simp)
          rintro ⟨intent, _, parsed⟩
          rw [parseIntent, loaded] at parsed
          cases parsed

end IntentClassifier

/-! ## The entities -/

namespace EntityExtractor

/-- The reply is not too deep, and of an array no confidence overflows that is converted. -/
def Parses (recursionLimit : Nat) (raw : Text) : Prop :=
  Python.loads recursionLimit raw ≠ .error recursionError ∧
    ∀ items, Python.loads recursionLimit raw = .ok (.list items) → ∀ item error,
      FirstError convertedConfidence items item error → error.cls ≠ .overflowError

theorem caught_iff_of_converted {item : Json} {error : PyError}
    (failed : convertedConfidence item = .error error) :
    (error.isValueError || error.cls == .typeError) = true ↔ error.cls ≠ .overflowError := by
  have rejected := (convertedConfidence_eq_error.mp failed).2
  rcases Json.cls_of_toFloat rejected with cls | cls | cls <;> simp [PyError.isValueError, cls]

/-- An array is parsed unless its first rejected confidence overflows. -/
theorem parseEntities_list_iff {items : List Json}
    (loaded : Python.loads recursionLimit raw = .ok (.list items)) :
    (∃ entities, parseEntities recursionLimit raw phase = .ok entities) ↔ ∀ item error,
      FirstError convertedConfidence items item error → error.cls ≠ .overflowError := by
  rw [parseEntities_of_loads loaded]
  cases parsed : items.mapM (parseEntity phase) with
  | ok results =>
      refine iff_of_true ⟨_, rfl⟩ fun item error first => ?_
      have failed := (exists_firstError_iff phase).mp ⟨item, first⟩
      rw [parsed] at failed
      cases failed
  | error error =>
      rcases (exists_firstError_iff phase).mpr parsed with ⟨item, first⟩
      have caught := caught_iff_of_converted first.failed
      by_cases overflow : error.cls = .overflowError
      · refine iff_of_false ?_ fun none => none item error first overflow
        rintro ⟨entities, returned⟩
        dsimp only at returned
        rw [if_neg (fun yes => caught.mp yes overflow)] at returned
        cases returned
      · refine iff_of_true ⟨[], if_pos (caught.mpr overflow)⟩ ?_
        intro other error' first'
        have failed := (exists_firstError_iff phase).mp ⟨other, first'⟩
        rw [parsed] at failed
        rwa [← Except.error.inj failed]

theorem parseEntities_iff :
    (∃ entities, parseEntities recursionLimit raw phase = .ok entities) ↔
      Parses recursionLimit raw := by
  rw [Parses]
  cases loaded : Python.loads recursionLimit raw with
  | error error =>
      rw [parseEntities, loaded]
      by_cases deep : error = recursionError
      · subst deep
        refine iff_of_false ?_ fun holds => holds.1 rfl
        rintro ⟨entities, parsed⟩
        cases parsed
      · have caught := Python.isValueError_of_loads loaded deep
        refine iff_of_true ⟨[], if_pos ?_⟩ ⟨fun same => deep (Except.error.inj same), ?_⟩
        · rw [caught, Bool.true_or]
        · intro items same
          cases same
  | ok data =>
      cases data with
      | list items => simp [parseEntities_list_iff loaded]
      | _ =>
          rw [parseEntities, loaded]
          refine iff_of_true ⟨[], rfl⟩ ⟨by simp, ?_⟩
          intro items same
          cases same

end EntityExtractor

/-! ## The gap -/

namespace GapAnalyzer

/-- The object lacks a required key, or its priority is finite, and so is its count when the
priority is converted. -/
def Converts (entries : List (Text × Json)) : Prop :=
  (entries.lookup (.ofString "criterion_id")).isSome = true →
    (entries.lookup (.ofString "description")).isSome = true →
      ¬(getField (.dict entries) "priority" (.int 0)).IsInfinite ∧
        ((∃ priority, (getField (.dict entries) "priority" (.int 0)).toInt = .ok priority) →
          ¬(getField (.dict entries) "unmet_count" (.int 0)).IsInfinite)

/-- The reply is not too deep, and of an object no number is infinite that is converted. -/
def Parses (recursionLimit : Nat) (raw : Text) : Prop :=
  Python.loads recursionLimit raw ≠ .error recursionError ∧
    ∀ entries, Python.loads recursionLimit raw = .ok (.dict entries) → Converts entries

/-- Of the rejected numbers only an infinity raises an exception that is not caught. -/
theorem caught_iff_of_toInt {value : Json} {error : PyError}
    (failed : value.toInt = .error error) :
    (error.isValueError || error.cls == .keyError || error.cls == .typeError) = true ↔
      ¬value.IsInfinite := by
  by_cases infinite : value.IsInfinite
  · rcases Json.toInt_of_isInfinite infinite with ⟨other, overflows, cls⟩
    rw [failed, Except.error.injEq] at overflows
    simp [PyError.isValueError, overflows, cls, infinite]
  · rcases Json.cls_of_toInt failed with cls | cls | ⟨_, overflows⟩
    · simp [PyError.isValueError, cls, infinite]
    · simp [PyError.isValueError, cls, infinite]
    · exact absurd overflows infinite

/-- The outcome of the `try` block. -/
def recovered (parsed : Except PyError GapResult) : Except PyError (Option GapResult) :=
  match parsed with
  | .ok gap => .ok (some gap)
  | .error error =>
      if error.isValueError || error.cls == .keyError || error.cls == .typeError then .ok none
      else .error error

/-- A rejected number of the reply. -/
theorem recovered_of_toInt {value : Json} {error : PyError} (failed : value.toInt = .error error) :
    (∃ gap, recovered (.error error) = .ok gap) ↔ ¬value.IsInfinite := by
  rw [recovered, ← caught_iff_of_toInt failed]
  simp [ite_eq_iff]

section Object

variable {entries : List (Text × Json)}
  (loaded : Python.loads recursionLimit raw = .ok (.dict entries))
include loaded

/-- A reply without a required key is no gap. -/
theorem parseGap_of_missing
    (missing : entries.lookup (.ofString "criterion_id") = none ∨
      entries.lookup (.ofString "description") = none) :
    parseGap recursionLimit raw = .ok none := by
  rw [parseGap, loaded]
  cases first : entries.lookup (.ofString "criterion_id") with
  | none => simp [bind, Except.bind, Json.subscript, first]
  | some criterionId =>
      have second := missing.resolve_left (by simp [first])
      simp [bind, Except.bind, Json.subscript, first, second]

/-- With both keys the numbers decide. -/
theorem parseGap_of_present {criterionId description : Json}
    (first : entries.lookup (.ofString "criterion_id") = some criterionId)
    (second : entries.lookup (.ofString "description") = some description) :
    (∃ gap, parseGap recursionLimit raw = .ok gap) ↔
      ∃ gap, recovered (do
        let priority ← (getField (.dict entries) "priority" (.int 0)).toInt
        let unmetCount ← (getField (.dict entries) "unmet_count" (.int 0)).toInt
        return {
          criterionId
          description
          suggestedQuestion := getField (.dict entries) "suggested_question" (.ofString "")
          priority
          isTerminal := (getField (.dict entries) "is_terminal" (.bool false)).truthy
          unmetCount }) = .ok gap := by
  rw [parseGap, loaded]
  simp only [bind, Except.bind, Json.subscript, first, second]
  rfl

/-- When an object is parsed or rejected. -/
theorem parseGap_iff_of_dict :
    (∃ gap, parseGap recursionLimit raw = .ok gap) ↔ Converts entries := by
  rw [Converts]
  cases first : entries.lookup (.ofString "criterion_id") with
  | none => exact iff_of_true ⟨none, parseGap_of_missing loaded (.inl first)⟩ (by simp)
  | some criterionId =>
      cases second : entries.lookup (.ofString "description") with
      | none => exact iff_of_true ⟨none, parseGap_of_missing loaded (.inr second)⟩ (by simp)
      | some description =>
          rw [parseGap_of_present loaded first second]
          simp only [Option.isSome_some, forall_const]
          cases ranked : (getField (.dict entries) "priority" (.int 0)).toInt with
          | error error =>
              simp only [reduceCtorEq, exists_false, false_implies, and_true]
              exact recovered_of_toInt ranked
          | ok priority =>
              have finite := Json.not_isInfinite_of_toInt ranked
              simp only [finite, not_false_eq_true, Except.ok.injEq, exists_eq', true_and,
                forall_const]
              cases counted : (getField (.dict entries) "unmet_count" (.int 0)).toInt with
              | error error => exact recovered_of_toInt counted
              | ok count =>
                  exact iff_of_true ⟨some _, rfl⟩ (Json.not_isInfinite_of_toInt counted)

end Object

theorem parseGap_iff :
    (∃ gap, parseGap recursionLimit raw = .ok gap) ↔ Parses recursionLimit raw := by
  rw [Parses]
  cases loaded : Python.loads recursionLimit raw with
  | error error =>
      rw [parseGap, loaded]
      by_cases deep : error = recursionError
      · subst deep
        refine iff_of_false ?_ fun holds => holds.1 rfl
        rintro ⟨gap, parsed⟩
        cases parsed
      · have caught := Python.isValueError_of_loads loaded deep
        refine iff_of_true ⟨none, if_pos ?_⟩ ⟨fun same => deep (Except.error.inj same), nofun⟩
        rw [caught, Bool.true_or, Bool.true_or]
  | ok data =>
      cases data with
      | dict entries =>
          simp only [ne_eq, reduceCtorEq, not_false_eq_true, true_and, Except.ok.injEq,
            Json.dict.injEq, forall_eq']
          exact parseGap_iff_of_dict loaded
      | _ =>
          rw [parseGap, loaded]
          exact iff_of_true ⟨none, rfl⟩ ⟨nofun, nofun⟩

end GapAnalyzer

/-- The three parsers return on the reply, the first of them a valid intent. -/
structure ParsersReturn (recursionLimit : Nat) (raw : Text) (phase : Json) : Prop where
  intent : ∃ intent ∈ IntentClassifier.validIntents,
    IntentClassifier.parseIntent recursionLimit raw = .ok intent
  entities : ∃ entities, EntityExtractor.parseEntities recursionLimit raw phase = .ok entities
  gap : ∃ gap, GapAnalyzer.parseGap recursionLimit raw = .ok gap

/-- They do exactly when each of them expects what the reply raises. -/
theorem parsersReturn_iff (recursionLimit : Nat) (raw : Text) (phase : Json) :
    ParsersReturn recursionLimit raw phase ↔
      IntentClassifier.Parses recursionLimit raw ∧
        EntityExtractor.Parses recursionLimit raw ∧ GapAnalyzer.Parses recursionLimit raw := by
  rw [← IntentClassifier.parseIntent_iff, ← EntityExtractor.parseEntities_iff,
    ← GapAnalyzer.parseGap_iff]
  exact ⟨fun ⟨intent, entities, gap⟩ => ⟨intent, entities, gap⟩,
    fun ⟨intent, entities, gap⟩ => ⟨intent, entities, gap⟩⟩

/-- An empty array has no `get`, and the classifier does not expect that. -/
theorem not_parsersReturn_of_array :
    ¬ParsersReturn 1000 (.ofString "[]") (.ofString "ProblemIntake") := by
  intro returns
  have raises : IntentClassifier.parseIntent 1000 (.ofString "[]") =
      .error (.attributeError "'list' object has no attribute 'get'") := rfl
  rcases returns.intent with ⟨intent, _, parsed⟩
  rw [raises] at parsed
  cases parsed

end Chitragupt
