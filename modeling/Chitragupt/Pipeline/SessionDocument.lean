import Chitragupt.Pipeline.State
import Chitragupt.StateMachine.Wire

/-!
# The session document

The JSON form of a session as the pipeline reads it: every field under its name, and
the lists of strings as lists.
-/

namespace Chitragupt

open Python (PyError Json)

/-- A field of an object written with string keys. -/
theorem getField_objectJson (fields : List (String × Json)) (name : String)
    (default : Json) :
    getField (objectJson fields) name default = (fields.lookup name).getD default := by
  rw [objectJson, getField]
  congr 1
  induction fields with
  | nil => rfl
  | cons field rest ih =>
      rcases field with ⟨other, value⟩
      by_cases same : name = other
      · simp [same]
      · have apart : (Text.ofString name == Text.ofString other) = false := by
          rw [beq_eq_false_iff_ne, ne_eq, Text.ofString_inj]
          exact same
        have different : (name == other) = false := beq_eq_false_iff_ne.mpr same
        simp only [List.map_cons, List.lookup_cons, apart, different, ih]

/-- Every field of a session is read back under its name. -/
theorem SessionState.getField_toJson [Runtime] (state : SessionState) {name : String}
    {value : Json} (default : Json) (field : (name, value) ∈ state.jsonFields) :
    getField state.toJson name default = value := by
  have distinct : (state.jsonFields.map Prod.fst).Nodup := by
    simp [jsonFields]
  rw [toJson, getField_objectJson, Python.lookup_of_mem distinct field, Option.getD_some]

@[simp] theorem phaseOf_toJson [Runtime] (state : SessionState) :
    phaseOf state.toJson = state.currentPhase.toJson :=
  state.getField_toJson _ (by simp [SessionState.jsonFields])

/-- Membership in a list of strings of the document. -/
@[simp] theorem containsStr_listJson (values : List String) (text : String) :
    (listJson .ofString values).containsStr (.ofString text) =
      .ok (decide (text ∈ values)) := by
  rw [listJson, Json.containsStr, Except.ok.injEq, Bool.eq_iff_iff, List.any_eq_true,
    decide_eq_true_iff]
  constructor
  · rintro ⟨item, member, equal⟩
    rcases List.mem_map.mp member with ⟨value, present, rfl⟩
    rw [Json.ofString, Json.isStr_str, Text.ofString_inj] at equal
    exact equal ▸ present
  · intro member
    exact ⟨.ofString text, List.mem_map_of_mem member, by simp [Json.ofString]⟩

@[simp] theorem len_listJson {α : Type} (json : α → Json) (values : List α) :
    (listJson json values).len = .ok values.length := by
  simp [listJson, Json.len]

end Chitragupt
