import Chitragupt.Lib.JsonWriter
import Chitragupt.Pipeline.Servicer
import Chitragupt.StateMachine.Service

/-!
# The text of a session

The state engine sends a session as the text that `serde_json` writes for it, and the
orchestration service decodes that text again.  The text loses nothing but the kind of
a number that JSON does not have.
-/

namespace Chitragupt

open Python (PyError Json)
open Python.JsonWriter (Escaping NumberFormat Readable Style)

/-! ## The writer -/

/-- How the crate writes: in a style that the reader understands.  The text of a double is
read as a number with the same text; a single is printed like the double that its own text
denotes. -/
structure SerdeJson extends Style where
  nearest : ℚ → ℚ
  denotes_nearest : ∀ value, denotes value = .float (.finite (nearest value))
  print_nearest : ∀ value, print (nearest value) = print value
  single : ℚ → ℚ

def ExactFloat.map (change : ℚ → ℚ) : ExactFloat → ExactFloat
  | .finite value => .finite (change value)
  | other => other

namespace SessionState

/-- A session with other numbers: doubles and singles. -/
def mapFloats (double single : ℚ → ℚ) (state : SessionState) : SessionState :=
  { state with
    requirements := state.requirements.map fun requirement =>
      { requirement with confidence := ExactFloat.map single requirement.confidence }
    totalLlmCostUsd := ExactFloat.map double state.totalLlmCostUsd }

variable [Runtime] (crate : SerdeJson) (state : SessionState)

/-- The `state_json` field of a session. -/
def stateJson : Text := crate.write 0 (state.mapFloats id crate.single).toJson

/-- The session with the numbers that a reader of its text gets. -/
def rounded : SessionState :=
  state.mapFloats crate.nearest fun value => crate.nearest (crate.single value)

end SessionState

/-- What the reader makes of a `state_json` field, with `room` levels of recursion left. -/
def readStateJson (room : Nat) (text : Text) : Option (Except PyError Json) :=
  if text = [] then none else some (Python.loads room text)

/-! ## Documents that can be written -/

section Readable

variable {room : Nat}

theorem readable_ofString (text : String) : Readable room (.ofString text) :=
  .str _ (Python.JsonWriter.scalars_ofString text)

theorem readable_optionJson {α : Type} {json : α → Json}
    (each : ∀ value, Readable room (json value)) (value : Option α) :
    Readable room (optionJson json value) := by
  cases value with
  | none => exact .null
  | some value => exact each value

theorem readable_listJson {α : Type} {json : α → Json} {values : List α}
    (each : ∀ value ∈ values, Readable room (json value)) :
    Readable (room + 1) (listJson json values) := by
  refine .list _ fun item member => ?_
  rcases List.mem_map.mp member with ⟨value, present, rfl⟩
  exact each value present

theorem readable_objectJson {fields : List (String × Json)}
    (distinct : (fields.map Prod.fst).Nodup)
    (each : ∀ field ∈ fields, Readable room field.2) :
    Readable (room + 1) (objectJson fields) := by
  refine .dict _ ?_ ?_ ?_
  · intro entry member
    rcases List.mem_map.mp member with ⟨⟨name, value⟩, _, rfl⟩
    exact Python.JsonWriter.scalars_ofString name
  · rw [List.map_map]
    have names : (fun field : String × Json => Text.ofString field.1) =
      Text.ofString ∘ Prod.fst := rfl
    change (fields.map fun field => Text.ofString field.1).Nodup
    rw [names, ← List.map_map]
    exact distinct.map Text.ofString_injective
  · intro entry member
    rcases List.mem_map.mp member with ⟨field, present, rfl⟩
    exact each field present

theorem readable_floatJson (value : ExactFloat) : Readable room (floatJson value) := by
  cases value with
  | finite number => exact .finite number
  | infinite _ => exact .null
  | nan => exact .null

end Readable

section Session

variable [Runtime] {room : Nat}

theorem Actor.readable_toJson (actor : Actor) : Readable (room + 1) actor.toJson := by
  refine readable_objectJson (by simp) ?_
  simp only [List.forall_mem_cons]
  exact ⟨readable_ofString _, readable_ofString _, readable_ofString _, .bool _, nofun⟩

theorem DraftRequirement.readable_toJson (requirement : DraftRequirement) :
    Readable (room + 2) requirement.toJson := by
  have requirementType : Readable (room + 1) requirement.requirementType.toJson := by
    cases requirement.requirementType <;> exact readable_ofString _
  refine readable_objectJson (by simp) ?_
  simp only [List.forall_mem_cons]
  exact ⟨readable_ofString _, readable_ofString _,
    readable_optionJson (fun _ => readable_ofString _) _, requirementType,
    readable_floatJson _, readable_listJson fun _ _ => readable_ofString _, nofun⟩

omit [Runtime] in
theorem DraftConstraint.readable_toJson (constraint : DraftConstraint) :
    Readable (room + 1) constraint.toJson := by
  have constraintType : Readable room constraint.constraintType.toJson := by
    cases constraint.constraintType <;> exact readable_ofString _
  refine readable_objectJson (by simp) ?_
  simp only [List.forall_mem_cons]
  exact ⟨readable_ofString _, readable_ofString _, constraintType, nofun⟩

theorem RevisitRecord.readable_toJson (record : RevisitRecord) :
    Readable (room + 1) record.toJson := by
  refine readable_objectJson (by simp) ?_
  simp only [List.forall_mem_cons]
  exact ⟨readable_ofString _, readable_ofString _, readable_ofString _, nofun⟩

/-- Four levels hold a session: its requirements and their chunks. -/
theorem SessionState.readable_toJson (state : SessionState) :
    Readable (room + 4) state.toJson := by
  have strings : ∀ values : List String,
      Readable (room + 3) (listJson .ofString values) :=
    fun values => readable_listJson fun _ _ => readable_ofString _
  have texts : ∀ value : Option String,
      Readable (room + 3) (optionJson .ofString value) :=
    readable_optionJson readable_ofString
  have ids : ∀ value : Option Uuid, Readable (room + 3) (optionJson uuidJson value) :=
    readable_optionJson fun _ => readable_ofString _
  have turns : (state.turnCount.toNat : Int).natAbs < 10 ^ Python.JsonDecoder.maxStrDigits := by
    rw [Int.natAbs_natCast]
    refine state.turnCount.toNat_lt.trans_le (le_trans ?_ (Nat.pow_le_pow_right (by decide)
      (by decide : 10 ≤ Python.JsonDecoder.maxStrDigits)))
    decide
  refine readable_objectJson (by simp [jsonFields]) ?_
  simp only [jsonFields, List.forall_mem_cons]
  exact ⟨readable_ofString _, readable_ofString _, readable_ofString _, readable_ofString _,
    readable_ofString _, readable_ofString _, texts _, texts _, texts _, strings _, strings _,
    readable_listJson fun actor _ => actor.readable_toJson, strings _, texts _, texts _,
    readable_listJson fun requirement _ => requirement.readable_toJson,
    readable_listJson fun constraint _ => constraint.readable_toJson, strings _, texts _,
    texts _, strings _, strings _, strings _, readable_listJson fun _ _ => readable_ofString _,
    strings _, strings _, ids _, ids _, .bool _,
    readable_optionJson (fun _ => readable_ofString _) _,
    readable_listJson fun record _ => record.readable_toJson, readable_floatJson _,
    .int _ turns, nofun⟩

end Session

/-! ## The reader -/

section Reading

section Style

variable {style : Style}

theorem reading_objectJson (fields : List (String × Json)) :
    style.reading (objectJson fields) =
      objectJson (fields.map fun field => (field.1, style.reading field.2)) := by
  simp only [objectJson, Style.reading, Style.readingEntries_eq_map, List.map_map]
  rfl

theorem reading_listJson {α : Type} (json : α → Json) (values : List α) :
    style.reading (listJson json values) =
      listJson (fun value => style.reading (json value)) values := by
  simp only [listJson, Style.reading, Style.readingItems_eq_map, List.map_map]
  rfl

theorem reading_optionJson {α : Type} (json : α → Json) (value : Option α) :
    style.reading (optionJson json value) =
      optionJson (fun value => style.reading (json value)) value := by
  cases value <;> rfl

theorem reading_ofString (text : String) : style.reading (.ofString text) = .ofString text := rfl

end Style

variable {crate : SerdeJson}

theorem reading_floatJson (value : ExactFloat) :
    crate.reading (floatJson value) =
      floatJson (ExactFloat.map crate.nearest value) := by
  cases value with
  | finite number => exact crate.denotes_nearest number
  | infinite _ => rfl
  | nan => rfl

variable [Runtime]

theorem reading_uuidJson (id : Uuid) :
    crate.reading (uuidJson id) = uuidJson id := rfl

theorem reading_actorJson (actor : Actor) :
    crate.reading actor.toJson = actor.toJson := rfl

omit [Runtime] in
theorem reading_constraintJson (constraint : DraftConstraint) :
    crate.reading constraint.toJson = constraint.toJson := by
  have constraintType : crate.reading constraint.constraintType.toJson =
      constraint.constraintType.toJson := by
    cases constraint.constraintType <;> rfl
  simp only [DraftConstraint.toJson, reading_objectJson, List.map_cons, List.map_nil,
    reading_ofString, constraintType]

theorem reading_recordJson (record : RevisitRecord) :
    crate.reading record.toJson = record.toJson := rfl

theorem reading_requirementJson (requirement : DraftRequirement) :
    crate.reading requirement.toJson =
      DraftRequirement.toJson { requirement with
        confidence := ExactFloat.map crate.nearest requirement.confidence } := by
  have requirementType : crate.reading requirement.requirementType.toJson =
      requirement.requirementType.toJson := by
    cases requirement.requirementType <;> rfl
  simp only [DraftRequirement.toJson, reading_objectJson, List.map_cons, List.map_nil,
    reading_ofString, requirementType, reading_floatJson, reading_optionJson, reading_listJson,
    reading_uuidJson]

omit [Runtime] in
theorem ExactFloat.map_map (change first : ℚ → ℚ) (value : ExactFloat) :
    ExactFloat.map change (ExactFloat.map first value) =
      ExactFloat.map (fun value => change (first value)) value := by
  cases value <;> rfl

/-- The document with other numbers is the document of the rounded session. -/
theorem reading_toJson (state : SessionState) :
    crate.reading (state.mapFloats id crate.single).toJson =
      (state.rounded crate).toJson := by
  have time : ∀ instant, crate.reading (timeJson instant) = timeJson instant :=
    fun _ => rfl
  have phase : ∀ phase, crate.reading (SessionPhase.toJson phase) =
    phase.toJson := fun _ => rfl
  have bool : ∀ value, crate.reading (.bool value) = .bool value :=
    fun _ => rfl
  have int : ∀ value, crate.reading (.int value) = .int value :=
    fun _ => rfl
  have requirements : listJson (fun requirement => crate.reading
        (DraftRequirement.toJson requirement)) (state.mapFloats id crate.single).requirements =
      listJson DraftRequirement.toJson (state.rounded crate).requirements := by
    simp only [listJson, SessionState.rounded, SessionState.mapFloats, List.map_map,
      reading_requirementJson, Json.list.injEq]
    refine List.map_congr_left fun requirement _ => ?_
    simp only [Function.comp_apply, ExactFloat.map_map]
  have cost : ExactFloat.map crate.nearest (state.mapFloats id crate.single).totalLlmCostUsd =
      (state.rounded crate).totalLlmCostUsd := by
    simp only [SessionState.rounded, SessionState.mapFloats, ExactFloat.map_map, id_eq]
  simp only [SessionState.toJson, SessionState.jsonFields, reading_objectJson, List.map_cons,
    List.map_nil, reading_uuidJson, reading_ofString, reading_listJson, reading_optionJson,
    reading_floatJson, reading_actorJson, reading_constraintJson, reading_recordJson, time, phase,
    bool, int, requirements, cost]
  rfl

/-- The text of a session is read as the document of its fields. -/
theorem loads_stateJson (crate : SerdeJson) (state : SessionState) {room : Nat} (fits : 4 ≤ room) :
    Python.loads room (state.stateJson crate) = .ok (state.rounded crate).toJson := by
  rcases Nat.exists_eq_add_of_le' fits with ⟨spare, rfl⟩
  rw [← reading_toJson]
  exact crate.loads_write (SessionState.readable_toJson _)

/-- Reading and writing it again leads to the same text. -/
theorem write_rounded (state : SessionState) :
    crate.write 0 (state.rounded crate).toJson = state.stateJson crate := by
  have readable : Readable 4 (state.mapFloats id crate.single).toJson :=
    SessionState.readable_toJson _
  rw [← reading_toJson]
  refine crate.write_reading (fun value => ?_) readable 0
  exact ⟨_, crate.denotes_nearest value, crate.print_nearest value⟩

theorem stateJson_ne_nil (state : SessionState) : state.stateJson crate ≠ [] := by
  rw [SessionState.stateJson, SessionState.toJson, objectJson, SessionState.jsonFields]
  exact List.cons_ne_nil _ _

end Reading

/-! ## What the text tells apart -/

/-- A number as JSON can tell it: infinities and NaN are all the same. -/
def ExactFloat.jsonView : ExactFloat → ExactFloat
  | .finite value => .finite value
  | _ => .nan

/-- A session up to the kinds of numbers that JSON does not have. -/
def SessionState.jsonView (state : SessionState) : SessionState :=
  { state with
    requirements := state.requirements.map fun requirement =>
      { requirement with confidence := ExactFloat.jsonView requirement.confidence }
    totalLlmCostUsd := ExactFloat.jsonView state.totalLlmCostUsd }

/-- The identifiers that the document of a session spells out. -/
def SessionState.ids (state : SessionState) : List Uuid :=
  [state.sessionId, state.workspaceId, state.projectId] ++ state.actors.map (·.id) ++
    state.requirements.flatMap (fun requirement =>
      requirement.actorId.toList ++ requirement.sourceChunkIds) ++
    state.documentsIndexed ++ state.brdArtifactId.toList ++ state.hldArtifactId.toList

/-- The times that it spells out. -/
def SessionState.times (state : SessionState) : List DateTime :=
  [state.createdAt, state.updatedAt] ++ state.revisitHistory.map (·.at)

namespace SessionState

variable (state : SessionState)

theorem actor_mem_ids {actor : Actor} (member : actor ∈ state.actors) : actor.id ∈ state.ids := by
  simp only [ids, List.mem_append, List.mem_map]
  exact .inl (.inl (.inl (.inl (.inr ⟨actor, member, rfl⟩))))

/-- A requirement spells out its actor and its chunks. -/
theorem requirement_subset_ids {requirement : DraftRequirement}
    (member : requirement ∈ state.requirements) :
    requirement.actorId.toList ++ requirement.sourceChunkIds ⊆ state.ids := by
  intro id inside
  simp only [ids, List.mem_append, List.mem_flatMap] at inside ⊢
  exact .inl (.inl (.inl (.inr ⟨requirement, member, inside⟩)))

theorem actorId_mem_ids {requirement : DraftRequirement}
    (member : requirement ∈ state.requirements) : ∀ id ∈ requirement.actorId, id ∈ state.ids :=
  fun _ inside => state.requirement_subset_ids member
    (List.mem_append_left _ (Option.mem_toList.mpr inside))

theorem chunks_subset_ids {requirement : DraftRequirement}
    (member : requirement ∈ state.requirements) : requirement.sourceChunkIds ⊆ state.ids :=
  fun _ inside => state.requirement_subset_ids member (List.mem_append_right _ inside)

theorem documents_subset_ids : state.documentsIndexed ⊆ state.ids := by
  intro id inside
  simp only [ids, List.mem_append]
  exact .inl (.inl (.inr inside))

theorem brdArtifact_mem_ids : ∀ id ∈ state.brdArtifactId, id ∈ state.ids := by
  intro id inside
  simp only [ids, List.mem_append]
  exact .inl (.inr (Option.mem_toList.mpr inside))

theorem hldArtifact_mem_ids : ∀ id ∈ state.hldArtifactId, id ∈ state.ids := by
  intro id inside
  simp only [ids, List.mem_append]
  exact .inr (Option.mem_toList.mpr inside)

theorem record_mem_times {record : RevisitRecord} (member : record ∈ state.revisitHistory) :
    record.at ∈ state.times := by
  simp only [times, List.mem_append, List.mem_map]
  exact .inr ⟨record, member, rfl⟩

end SessionState

section Equality

theorem floatJson_eq_iff {left right : ExactFloat} :
    floatJson left = floatJson right ↔
      ExactFloat.jsonView left = ExactFloat.jsonView right := by
  cases left <;> cases right <;> simp [floatJson, ExactFloat.jsonView]

theorem ofString_eq_iff {left right : String} :
    Json.ofString left = Json.ofString right ↔ left = right := by
  simp [Json.ofString]

theorem ofString_ne_null (text : String) : Json.ofString text ≠ .null := nofun

theorem optionJson_eq_iff {α : Type} {json : α → Json} (notNull : ∀ value, json value ≠ .null)
    {left right : Option α}
    (each : ∀ value ∈ left, ∀ other ∈ right, json value = json other ↔ value = other) :
    optionJson json left = optionJson json right ↔ left = right := by
  cases left with
  | none => cases right <;> simp [optionJson, Ne.symm (notNull _)]
  | some value =>
      cases right with
      | none => simp [optionJson, notNull]
      | some other => simpa [optionJson] using each value rfl other rfl

/-- Lists are told apart as far as their members are. -/
theorem listJson_eq_iff {α β : Type} {json : α → Json} {view : α → β} {left right : List α}
    (each : ∀ value ∈ left, ∀ other ∈ right, json value = json other ↔ view value = view other) :
    listJson json left = listJson json right ↔ left.map view = right.map view := by
  rw [listJson, listJson, Json.list.injEq]
  induction left generalizing right with
  | nil => cases right <;> simp
  | cons value left ih =>
      cases right with
      | nil => simp
      | cons other right =>
          have tails := ih fun value member other present =>
            each value (List.mem_cons_of_mem _ member) other (List.mem_cons_of_mem _ present)
          rw [List.map_cons, List.map_cons, List.map_cons, List.map_cons, List.cons.injEq,
            List.cons.injEq, tails, each value List.mem_cons_self other List.mem_cons_self]

/-- A textual form that tells the members of two lists apart. -/
def TellsApart {α : Type} (form : α → String) (left right : List α) : Prop :=
  ∀ value ∈ left, ∀ other ∈ right, form value = form other → value = other

variable [Runtime] {left right : SessionState}

theorem TellsApart.uuidJson_eq_iff {ids others : List Uuid}
    (apart : TellsApart Runtime.hyphenated ids others) {id other : Uuid} (member : id ∈ ids)
    (present : other ∈ others) : uuidJson id = uuidJson other ↔ id = other := by
  rw [uuidJson, uuidJson, ofString_eq_iff]
  exact ⟨apart id member other present, congrArg _⟩

theorem TellsApart.timeJson_eq_iff {times others : List DateTime}
    (apart : TellsApart Runtime.rfc3339 times others) {time other : DateTime}
    (member : time ∈ times) (present : other ∈ others) :
    timeJson time = timeJson other ↔ time = other := by
  rw [timeJson, timeJson, ofString_eq_iff]
  exact ⟨apart time member other present, congrArg _⟩

omit [Runtime] in
theorem SessionPhase.toJson_eq_iff {phase other : SessionPhase} :
    phase.toJson = other.toJson ↔ phase = other := by
  rw [SessionPhase.toJson, SessionPhase.toJson, ofString_eq_iff]
  refine ⟨fun same => ?_, congrArg _⟩
  have read := congrArg SessionPhase.fromStr same
  rw [SessionPhase.fromStr_variantName, SessionPhase.fromStr_variantName] at read
  exact Except.ok.inj read

omit [Runtime] in
theorem strings_eq_iff {values others : List String} :
    listJson .ofString values = listJson .ofString others ↔ values = others := by
  have each : ∀ value ∈ values, ∀ other ∈ others,
      Json.ofString value = Json.ofString other ↔ id value = id other :=
    fun _ _ _ _ => ofString_eq_iff
  simpa using listJson_eq_iff each

omit [Runtime] in
theorem texts_eq_iff {value other : Option String} :
    optionJson .ofString value = optionJson .ofString other ↔ value = other :=
  optionJson_eq_iff ofString_ne_null fun _ _ _ _ => ofString_eq_iff

omit [Runtime] in
theorem optionPhase_eq_iff {phase other : Option SessionPhase} :
    optionJson SessionPhase.toJson phase = optionJson SessionPhase.toJson other ↔
      phase = other :=
  optionJson_eq_iff (fun _ => ofString_ne_null _) fun _ _ _ _ => SessionPhase.toJson_eq_iff

section Ids

variable {ids others : List Uuid} (apart : TellsApart Runtime.hyphenated ids others)

include apart

theorem TellsApart.optionUuid_eq_iff {id other : Option Uuid} (member : ∀ found ∈ id, found ∈ ids)
    (present : ∀ found ∈ other, found ∈ others) :
    optionJson uuidJson id = optionJson uuidJson other ↔ id = other :=
  optionJson_eq_iff (fun _ => ofString_ne_null _) fun found inside target outside =>
    apart.uuidJson_eq_iff (member found inside) (present target outside)

theorem TellsApart.listUuid_eq_iff {values targets : List Uuid} (member : values ⊆ ids)
    (present : targets ⊆ others) :
    listJson uuidJson values = listJson uuidJson targets ↔ values = targets := by
  have each : ∀ value ∈ values, ∀ target ∈ targets,
      uuidJson value = uuidJson target ↔ id value = id target :=
    fun value inside target outside =>
      apart.uuidJson_eq_iff (member inside) (present outside)
  simpa using listJson_eq_iff each

theorem TellsApart.actorJson_eq_iff {actor other : Actor} (member : actor.id ∈ ids)
    (present : other.id ∈ others) : actor.toJson = other.toJson ↔ actor = other := by
  rcases actor with ⟨id, name, role, isDecisionMaker⟩
  rcases other with ⟨otherId, otherName, otherRole, otherIsDecisionMaker⟩
  simp only [Actor.toJson, objectJson, List.map_cons, List.map_nil, Json.dict.injEq,
    List.cons.injEq, Prod.mk.injEq, true_and, and_true, apart.uuidJson_eq_iff member present,
    ofString_eq_iff, Json.bool.injEq, Actor.mk.injEq]

theorem TellsApart.requirementJson_eq_iff {requirement other : DraftRequirement}
    (actor : ∀ id ∈ requirement.actorId, id ∈ ids)
    (otherActor : ∀ id ∈ other.actorId, id ∈ others)
    (chunks : requirement.sourceChunkIds ⊆ ids) (otherChunks : other.sourceChunkIds ⊆ others) :
    requirement.toJson = other.toJson ↔
      { requirement with confidence := ExactFloat.jsonView requirement.confidence } =
        { other with confidence := ExactFloat.jsonView other.confidence } := by
  have types : ∀ left right : RequirementType, left.toJson = right.toJson ↔ left = right := by
    intro left right
    cases left <;> cases right <;> simp [RequirementType.toJson, ofString_eq_iff]
  simp only [DraftRequirement.toJson, objectJson, List.map_cons, List.map_nil, Json.dict.injEq,
    List.cons.injEq, Prod.mk.injEq, true_and, and_true, ofString_eq_iff, types,
    apart.optionUuid_eq_iff actor otherActor, apart.listUuid_eq_iff chunks otherChunks,
    floatJson_eq_iff, DraftRequirement.mk.injEq]

end Ids

omit [Runtime] in
theorem constraintJson_eq_iff {constraint other : DraftConstraint} :
    constraint.toJson = other.toJson ↔ constraint = other := by
  have types : ∀ left right : ConstraintType, left.toJson = right.toJson ↔ left = right := by
    intro left right
    cases left <;> cases right <;> simp [ConstraintType.toJson, ofString_eq_iff]
  rcases constraint with ⟨id, description, constraintType⟩
  rcases other with ⟨otherId, otherDescription, otherType⟩
  simp only [DraftConstraint.toJson, objectJson, List.map_cons, List.map_nil, Json.dict.injEq,
    List.cons.injEq, Prod.mk.injEq, true_and, and_true, ofString_eq_iff, types,
    DraftConstraint.mk.injEq]

theorem TellsApart.recordJson_eq_iff {times others : List DateTime}
    (apart : TellsApart Runtime.rfc3339 times others) {record other : RevisitRecord}
    (member : record.at ∈ times) (present : other.at ∈ others) :
    record.toJson = other.toJson ↔ record = other := by
  rcases record with ⟨fromPhase, toPhase, time⟩
  rcases other with ⟨otherFrom, otherTo, otherTime⟩
  simp only [RevisitRecord.toJson, objectJson, List.map_cons, List.map_nil, Json.dict.injEq,
    List.cons.injEq, Prod.mk.injEq, true_and, and_true, SessionPhase.toJson_eq_iff,
    apart.timeJson_eq_iff member present, RevisitRecord.mk.injEq]

attribute [ext] SessionState

/-- The document determines the session up to the kinds of its numbers. -/
theorem SessionState.toJson_eq_iff
    (ids : TellsApart Runtime.hyphenated left.ids right.ids)
    (times : TellsApart Runtime.rfc3339 left.times right.times) :
    left.toJson = right.toJson ↔ left.jsonView = right.jsonView := by
  have actors : listJson Actor.toJson left.actors = listJson Actor.toJson right.actors ↔
      left.actors = right.actors := by
    have each : ∀ actor ∈ left.actors, ∀ other ∈ right.actors,
        actor.toJson = other.toJson ↔ id actor = id other := fun actor member other present =>
      ids.actorJson_eq_iff (left.actor_mem_ids member) (right.actor_mem_ids present)
    simpa using listJson_eq_iff each
  have requirements : listJson DraftRequirement.toJson left.requirements =
      listJson DraftRequirement.toJson right.requirements ↔
      left.jsonView.requirements = right.jsonView.requirements :=
    listJson_eq_iff fun requirement member other present =>
      ids.requirementJson_eq_iff (left.actorId_mem_ids member) (right.actorId_mem_ids present)
        (left.chunks_subset_ids member) (right.chunks_subset_ids present)
  have constraints : listJson DraftConstraint.toJson left.constraints =
      listJson DraftConstraint.toJson right.constraints ↔
      left.constraints = right.constraints := by
    have each : ∀ constraint ∈ left.constraints, ∀ other ∈ right.constraints,
        constraint.toJson = other.toJson ↔ id constraint = id other :=
      fun _ _ _ _ => constraintJson_eq_iff
    simpa using listJson_eq_iff each
  have history : listJson RevisitRecord.toJson left.revisitHistory =
      listJson RevisitRecord.toJson right.revisitHistory ↔
      left.revisitHistory = right.revisitHistory := by
    have each : ∀ record ∈ left.revisitHistory, ∀ other ∈ right.revisitHistory,
        record.toJson = other.toJson ↔ id record = id other := fun record member other present =>
      times.recordJson_eq_iff (left.record_mem_times member) (right.record_mem_times present)
    simpa using listJson_eq_iff each
  have documents := ids.listUuid_eq_iff left.documents_subset_ids right.documents_subset_ids
  have brd := ids.optionUuid_eq_iff left.brdArtifact_mem_ids right.brdArtifact_mem_ids
  have hld := ids.optionUuid_eq_iff left.hldArtifact_mem_ids right.hldArtifact_mem_ids
  have named : ∀ id ∈ [left.sessionId, left.workspaceId, left.projectId], id ∈ left.ids := by
    intro id inside
    simp only [SessionState.ids, List.append_assoc]
    exact List.mem_append_left _ inside
  have named' : ∀ id ∈ [right.sessionId, right.workspaceId, right.projectId],
      id ∈ right.ids := by
    intro id inside
    simp only [SessionState.ids, List.append_assoc]
    exact List.mem_append_left _ inside
  simp only [List.forall_mem_cons] at named named'
  have turns : (left.turnCount.toNat : Int) = right.turnCount.toNat ↔
      left.turnCount = right.turnCount := by
    rw [Int.natCast_inj, UInt32.toNat_inj]
  have created : timeJson left.createdAt = timeJson right.createdAt ↔
      left.createdAt = right.createdAt :=
    times.timeJson_eq_iff (List.mem_append_left _ List.mem_cons_self)
      (List.mem_append_left _ List.mem_cons_self)
  have updated : timeJson left.updatedAt = timeJson right.updatedAt ↔
      left.updatedAt = right.updatedAt :=
    times.timeJson_eq_iff
      (List.mem_append_left _ (List.mem_cons_of_mem _ List.mem_cons_self))
      (List.mem_append_left _ (List.mem_cons_of_mem _ List.mem_cons_self))
  rw [SessionState.ext_iff]
  simp only [toJson, objectJson, jsonFields, List.map_cons, List.map_nil, Json.dict.injEq,
    List.cons.injEq, Prod.mk.injEq, true_and, and_true, actors, requirements, constraints,
    history, documents, brd, hld, turns, created, updated,
    ids.uuidJson_eq_iff named.1 named'.1, ids.uuidJson_eq_iff named.2.1 named'.2.1,
    ids.uuidJson_eq_iff named.2.2.1 named'.2.2.1, strings_eq_iff, texts_eq_iff,
    SessionPhase.toJson_eq_iff, optionPhase_eq_iff, floatJson_eq_iff, jsonView, Json.bool.injEq,
    Json.int.injEq]

end Equality

/-! ## The main results -/

section Main

variable [Runtime] {crate : SerdeJson}

/-- Between the two services a session is a text.  The pipeline gets back the document of
its fields, with each number as its text denotes it, and that document has the same text
again. -/
theorem stateJson_decoded (state : SessionState) {room : Nat} (fits : 4 ≤ room) :
    Python.loads room (state.stateJson crate) = .ok (state.rounded crate).toJson ∧
      protoSessionToDict
        { StateEngineService.stateToProto state with
          stateJson := readStateJson room (state.stateJson crate) } =
        .ok (state.rounded crate).toJson ∧
      crate.write 0 (state.rounded crate).toJson = state.stateJson crate := by
  have read := loads_stateJson crate state fits
  refine ⟨read, ?_, write_rounded state⟩
  rw [readStateJson, if_neg (stateJson_ne_nil state), read]
  rfl

omit [Runtime] in
theorem mapFloats_ids (double single : ℚ → ℚ) (state : SessionState) :
    (state.mapFloats double single).ids = state.ids := by
  simp only [SessionState.ids, SessionState.mapFloats, List.flatMap_map]

/-- Two sessions have the same text exactly when they differ in nothing but numbers that are
read alike and the kinds of their infinities and NaNs. -/
theorem stateJson_eq_iff {left right : SessionState}
    (ids : TellsApart Runtime.hyphenated left.ids right.ids)
    (times : TellsApart Runtime.rfc3339 left.times right.times) :
    left.stateJson crate = right.stateJson crate ↔
      (left.rounded crate).jsonView = (right.rounded crate).jsonView := by
  have roundedIds : TellsApart Runtime.hyphenated (left.rounded crate).ids
      (right.rounded crate).ids := by
    rw [SessionState.rounded, SessionState.rounded, mapFloats_ids, mapFloats_ids]
    exact ids
  rw [← SessionState.toJson_eq_iff roundedIds times]
  constructor
  · intro same
    have read := loads_stateJson crate left (le_refl 4)
    rw [same, loads_stateJson crate right (le_refl 4)] at read
    exact (Except.ok.inj read).symm
  · intro same
    rw [← write_rounded left, same, write_rounded right]

end Main

/-! ### On a fresh session -/

section Fresh

open Python.JsonWriter (tenths tenthsOf)

attribute [local instance] referenceRuntime

theorem tenthsOf_tenths (value : ℚ) : tenthsOf ((tenthsOf value : ℚ) / 10) = tenthsOf value := by
  have bound : tenthsOf value ≤ 10 ^ 15 := min_le_right _ _
  rw [tenthsOf, div_mul_cancel₀ _ (by norm_num : (10 : ℚ) ≠ 0), Int.floor_natCast,
    Int.toNat_natCast, min_eq_left bound]

/-- Quotes, backslashes and control characters are escaped, and nothing else. -/
def sampleEscaping : Escaping where
  plain code := decide (32 ≤ code) && code != 34 && code != 92
  short := Python.JsonWriter.letters
  plain_readable code plain := by
    simpa [and_assoc] using plain
  short_readable := Python.JsonWriter.letters_readable
  short_visible := Python.JsonWriter.letters_visible

theorem tenths_nearest (value : ℚ) : tenths.print (tenthsOf value / 10) = tenths.print value := by
  change Python.JsonWriter.tenthsText _ = Python.JsonWriter.tenthsText _
  rw [tenthsOf_tenths]

/-- The compact form, with amounts of few digits, which are singles as well. -/
def sampleCrate : SerdeJson where
  toEscaping := sampleEscaping
  toLayout := .compact
  toNumberFormat := tenths
  nearest value := tenthsOf value / 10
  denotes_nearest _ := rfl
  print_nearest := tenths_nearest
  single := id

/-- A session that costs the given amount. -/
def costing (cost : ExactFloat) : SessionState :=
  { SessionState.new 7 0 7 7 with totalLlmCostUsd := cost }

theorem stateJson_decoded_costing :
    Python.loads 4 ((costing (.finite (1 / 2))).stateJson sampleCrate) =
      .ok ((costing (.finite (1 / 2))).rounded sampleCrate).toJson :=
  (stateJson_decoded _ le_rfl).1

/-- An infinite cost and one that is no number are written alike. -/
theorem stateJson_eq_costing :
    (costing (.infinite false)).stateJson sampleCrate =
      (costing .nan).stateJson sampleCrate := by
  have ids : TellsApart Runtime.hyphenated (costing (.infinite false)).ids (costing .nan).ids := by
    simp [TellsApart, SessionState.ids, costing, SessionState.new]
  have times : TellsApart Runtime.rfc3339 (costing (.infinite false)).times
      (costing .nan).times := by
    simp [TellsApart, SessionState.times, costing, SessionState.new]
  exact (stateJson_eq_iff ids times).mpr rfl

end Fresh

end Chitragupt
