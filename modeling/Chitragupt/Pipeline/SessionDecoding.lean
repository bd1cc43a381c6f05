import Chitragupt.Pipeline.Servicer
import Chitragupt.Pipeline.SessionDocument
import Chitragupt.StateMachine.Service

/-!
# The two decodings of a session

The orchestration service reads a session from its document and, when that is empty or
not JSON, from the fields of the message.  The document carries the variant name of the
phase, an unsigned turn count and `null` for a cost that is no number; the message carries
the display name, a signed count and the cost itself.
-/

namespace Chitragupt

open Python (PyError Json)
open StateEngineService

section Decoding

variable [Runtime]

/-- The keys that both decodings have. -/
def sharedKeys : List String :=
  ["session_id", "workspace_id", "project_id", "current_phase", "turn_count",
    "total_llm_cost_usd", "ac_met", "ac_waived", "documents_indexed"]

/-- A document that the reader falls back from: it is empty or not JSON. -/
def Unreadable (stateJson : Option (Except PyError Json)) : Prop :=
  stateJson = none ∨ ∃ error, stateJson = some (.error error) ∧ error.cls = .jsonDecodeError

/-- Both decodings of a session give the key, and the same value for it. -/
def DecodingsAgreeOn (state : SessionState) (key : String) : Prop :=
  ∃ value, (∃ document, protoSessionToDict (stateToProto state) = .ok document ∧
      document.subscript key = .ok value) ∧
    ∀ stateJson, Unreadable stateJson →
      ∃ fallback, protoSessionToDict { stateToProto state with stateJson } = .ok fallback ∧
        fallback.subscript key = .ok value

/-- Both decodings of a session give the same values. -/
def DecodingsAgree (state : SessionState) : Prop :=
  ∀ key ∈ sharedKeys, DecodingsAgreeOn state key

/-- The fields of the message, under the keys of the document. -/
def SessionStateProto.fallbackFields (proto : SessionStateProto) : List (String × Json) :=
  [ ("session_id", .ofString proto.sessionId),
    ("workspace_id", .ofString proto.workspaceId),
    ("project_id", .ofString proto.projectId),
    ("current_phase", .ofString proto.currentPhase),
    ("turn_count", .int proto.turnCount.toInt),
    ("total_llm_cost_usd", .float proto.totalCostUsd),
    ("ac_met", listJson .ofString proto.acMet),
    ("ac_waived", listJson .ofString proto.acWaived),
    ("documents_indexed", listJson .ofString proto.documentsIndexed) ]

/-! ## Reading a key -/

omit [Runtime] in
/-- A key of an object written with distinct string keys. -/
theorem subscript_objectJson {fields : List (String × Json)}
    (distinct : (fields.map Prod.fst).Nodup) {key : String} {value : Json}
    (field : (key, value) ∈ fields) : (objectJson fields).subscript key = .ok value := by
  have distinct' : ((fields.map fun field =>
      (Text.ofString field.1, field.2)).map Prod.fst).Nodup := by
    rw [List.map_map]
    have same : (Prod.fst ∘ fun (field : String × Json) => (Text.ofString field.1, field.2)) =
        Text.ofString ∘ Prod.fst := rfl
    rw [same, ← List.map_map]
    exact distinct.map Text.ofString_injective
  have found := Python.lookup_of_mem distinct' (List.mem_map_of_mem field)
  rw [objectJson, Json.subscript, found]

theorem subscript_toJson {state : SessionState} {key : String} {value : Json}
    (field : (key, value) ∈ state.jsonFields) : state.toJson.subscript key = .ok value := by
  apply subscript_objectJson
  · simp [SessionState.jsonFields]
  · exact field

omit [Runtime] in
theorem protoSessionToDict_unreadable {proto : SessionStateProto}
    {stateJson : Option (Except PyError Json)} (unreadable : Unreadable stateJson) :
    protoSessionToDict { proto with stateJson } = .ok (objectJson proto.fallbackFields) := by
  rcases unreadable with rfl | ⟨error, rfl, undecodable⟩
  · rfl
  · simp only [protoSessionToDict, undecodable, if_true]
    rfl

/-- The decodings agree on a key exactly when its two fields have the same value. -/
theorem decodingsAgreeOn_iff {state : SessionState} {key : String} {value other : Json}
    (field : (key, value) ∈ state.jsonFields)
    (shown : (key, other) ∈ (stateToProto state).fallbackFields) :
    DecodingsAgreeOn state key ↔ value = other := by
  have fallback : (objectJson (stateToProto state).fallbackFields).subscript key =
      .ok other := by
    apply subscript_objectJson
    · simp [SessionStateProto.fallbackFields]
    · exact shown
  constructor
  · rintro ⟨agreed, ⟨document, read, first⟩, unread⟩
    rcases Except.ok.inj read with rfl
    rcases unread none (.inl rfl) with ⟨fields, built, second⟩
    rw [protoSessionToDict_unreadable (.inl rfl), Except.ok.injEq] at built
    subst built
    rw [subscript_toJson field, Except.ok.injEq] at first
    rw [fallback, Except.ok.injEq] at second
    rw [first, second]
  · rintro rfl
    refine ⟨value, ⟨_, rfl, subscript_toJson field⟩, ?_⟩
    intro stateJson unreadable
    exact ⟨_, protoSessionToDict_unreadable unreadable, fallback⟩

/-! ## Where the decodings differ -/

omit [Runtime] in
theorem SessionPhase.variantName_ne_displayName (phase : SessionPhase) :
    phase.variantName ≠ phase.displayName := by
  cases phase <;> decide

/-- The name of the phase is never the same. -/
theorem not_decodingsAgreeOn_currentPhase (state : SessionState) :
    ¬DecodingsAgreeOn state "current_phase" := by
  have agree := @decodingsAgreeOn_iff _ state "current_phase" state.currentPhase.toJson
    (.ofString state.currentPhase.displayName) (by simp [SessionState.jsonFields])
    (by simp [SessionStateProto.fallbackFields, stateToProto])
  rw [agree, SessionPhase.toJson, Json.ofString, Json.ofString, Json.str.injEq,
    Text.ofString_inj]
  exact state.currentPhase.variantName_ne_displayName

/-- The turn count is the same as long as it fits a signed number. -/
theorem decodingsAgreeOn_turnCount_iff (state : SessionState) :
    DecodingsAgreeOn state "turn_count" ↔ state.turnCount.toNat < 2 ^ 31 := by
  have agree := @decodingsAgreeOn_iff _ state "turn_count" (.int state.turnCount.toNat)
    (.int state.turnCount.toInt32.toInt) (by simp [SessionState.jsonFields])
    (by simp [SessionStateProto.fallbackFields, stateToProto])
  have cast : state.turnCount.toInt32.toInt =
      if 2 * state.turnCount.toNat < 2 ^ 32 then (state.turnCount.toNat : Int)
      else state.turnCount.toNat - (2 ^ 32 : Nat) :=
    BitVec.toInt_eq_toNat_cond state.turnCount.toBitVec
  rw [agree, Json.int.injEq, cast]
  split
  next small => omega
  next large => omega

/-- The cost is the same unless it is an infinity or no number. -/
theorem decodingsAgreeOn_cost_iff (state : SessionState) :
    DecodingsAgreeOn state "total_llm_cost_usd" ↔
      ∃ cost, state.totalLlmCostUsd = .finite cost := by
  have agree := @decodingsAgreeOn_iff _ state "total_llm_cost_usd"
    (floatJson state.totalLlmCostUsd) (.float state.totalLlmCostUsd)
    (by simp [SessionState.jsonFields])
    (by simp [SessionStateProto.fallbackFields, stateToProto])
  rw [agree]
  cases state.totalLlmCostUsd <;> simp [floatJson]

/-- Identifiers are shown as they are written. -/
theorem listJson_uuidJson (ids : List Uuid) :
    listJson uuidJson ids = listJson .ofString (ids.map Runtime.hyphenated) := by
  rw [listJson, listJson, List.map_map]
  rfl

/-- Every other key has the same value in the document and in the message. -/
theorem exists_shared_value (state : SessionState) {key : String} (shared : key ∈ sharedKeys)
    (phase : key ≠ "current_phase") (count : key ≠ "turn_count")
    (cost : key ≠ "total_llm_cost_usd") :
    ∃ value, (key, value) ∈ state.jsonFields ∧
      (key, value) ∈ (stateToProto state).fallbackFields := by
  simp only [sharedKeys, List.mem_cons, List.not_mem_nil, or_false, phase, count, cost,
    false_or] at shared
  have fallback : (stateToProto state).fallbackFields =
      [ ("session_id", uuidJson state.sessionId),
        ("workspace_id", uuidJson state.workspaceId),
        ("project_id", uuidJson state.projectId),
        ("current_phase", .ofString state.currentPhase.displayName),
        ("turn_count", .int state.turnCount.toInt32.toInt),
        ("total_llm_cost_usd", .float state.totalLlmCostUsd),
        ("ac_met", listJson .ofString state.acMet),
        ("ac_waived", listJson .ofString state.acWaived),
        ("documents_indexed", listJson uuidJson state.documentsIndexed) ] := by
    rw [listJson_uuidJson]
    rfl
  rw [fallback]
  rcases shared with rfl | rfl | rfl | rfl | rfl | rfl
  · exact ⟨uuidJson state.sessionId, by simp [SessionState.jsonFields], by simp⟩
  · exact ⟨uuidJson state.workspaceId, by simp [SessionState.jsonFields], by simp⟩
  · exact ⟨uuidJson state.projectId, by simp [SessionState.jsonFields], by simp⟩
  · exact ⟨listJson .ofString state.acMet, by simp [SessionState.jsonFields], by simp⟩
  · exact ⟨listJson .ofString state.acWaived, by simp [SessionState.jsonFields], by simp⟩
  · exact ⟨listJson uuidJson state.documentsIndexed, by simp [SessionState.jsonFields], by simp⟩

/-- The decodings never agree, as their phases differ.  The other keys agree if the turn
count fits a signed number and the cost is a number. -/
theorem not_decodingsAgree (state : SessionState) :
    ¬DecodingsAgree state ∧
      ∀ key ∈ sharedKeys, DecodingsAgreeOn state key ↔
        key ≠ "current_phase" ∧
          (key = "turn_count" → state.turnCount.toNat < 2 ^ 31) ∧
          (key = "total_llm_cost_usd" → ∃ cost, state.totalLlmCostUsd = .finite cost) := by
  constructor
  · intro agrees
    exact not_decodingsAgreeOn_currentPhase state (agrees "current_phase" (by decide))
  · intro key shared
    by_cases phase : key = "current_phase"
    · subst phase
      simp [not_decodingsAgreeOn_currentPhase]
    · by_cases count : key = "turn_count"
      · subst count
        simp [decodingsAgreeOn_turnCount_iff]
      · by_cases cost : key = "total_llm_cost_usd"
        · subst cost
          simp [decodingsAgreeOn_cost_iff]
        · rcases exists_shared_value state shared phase count cost with ⟨value, field, shown⟩
          have agrees := (decodingsAgreeOn_iff field shown).mpr rfl
          simp [agrees, phase, count, cost]

end Decoding

/-! ### A fresh session -/

section Sample

attribute [local instance] referenceRuntime

/-- A fresh session is in the phase `ProblemIntake` or in the phase `Problem Intake`. -/
theorem not_decodingsAgree_fresh : ¬∀ state, DecodingsAgree state := by
  intro all
  exact not_decodingsAgreeOn_currentPhase (SessionState.new 0xA1 0 1 2)
    (all (SessionState.new 0xA1 0 1 2) "current_phase" (by decide))

end Sample

end Chitragupt
