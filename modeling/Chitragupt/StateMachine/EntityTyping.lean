import Chitragupt.Lib.Padding
import Chitragupt.StateMachine.CapturedKnowledge

/-!
# Types of requirements and constraints

The type of a constraint is found by a cascade of substring tests.  Five of the keywords have
a blank at an edge, so that white space around a value can turn such a test around; the other
keywords and those of the requirements are found in a padded value as in the value itself.
-/

namespace Chitragupt

open Padding (startsSolid endsSolid)

/-! ## The cascade -/

/-- The type after the five tests, in their order. -/
def cascade (timeline budget regulatory dataResidency technology : Bool) : ConstraintType :=
  if timeline then .timeline
  else if budget then .budget
  else if regulatory then .regulatory
  else if dataResidency then .dataResidency
  else if technology then .technology
  else .other

def timelineWords : List String :=
  ["timeline", "deadline", "delivery", "q1", "q2", "q3", "q4", "end of"]

def budgetWords : List String := ["budget", " £", " $", "cost"]

def regulatoryWords : List String := ["gdpr", "hipaa", "fca", "regulatory", "compliance", "iso "]

def dataResidencyWords : List String := ["data residency", "sovereignty", "must reside"]

def technologyWords : List String := ["technology", "platform", "stack", "azure", "aws ", "gcp"]

def nonFunctionalWords : List String :=
  ["non_functional", "non-functional", "performance", "response time", "availability",
    "concurrent", "uptime", "sla", "latency"]

theorem constraintType_fromEntityValue [Runtime] (id : Uuid) (value : String) :
    (DraftConstraint.fromEntityValue id value).constraintType =
      cascade (mentions (Text.lower (.ofString value)) timelineWords)
        (mentions (Text.lower (.ofString value)) budgetWords)
        (mentions (Text.lower (.ofString value)) regulatoryWords)
        (mentions (Text.lower (.ofString value)) dataResidencyWords)
        (mentions (Text.lower (.ofString value)) technologyWords) := rfl

theorem requirementType_fromEntity [Runtime] (id : Uuid) (entity : ExtractedEntity) :
    (DraftRequirement.fromEntity id entity).requirementType =
      if mentions (Text.lower (.ofString entity.value)) nonFunctionalWords then .nonFunctional
      else .functional := rfl

/-- A text starts with a currency sign. -/
def startsWithCurrency (text : Text) : Bool :=
  (Text.ofString "£").isPrefixOf text || (Text.ofString "$").isPrefixOf text

def endsWith (word : String) (text : Text) : Bool := (Text.ofString word).isSuffixOf text

/-- The tests that white space can turn around come too late, or fail in any case. -/
theorem cascade_const_iff (timeline budget regulatory dataResidency technology currency iso
    aws : Bool) :
    (∀ opens closes, cascade timeline (budget || (opens && currency))
        (regulatory || (closes && iso)) dataResidency (technology || (closes && aws)) =
      cascade timeline budget regulatory dataResidency technology) ↔
    timeline = true ∨ budget = true ∨ currency = false ∧
      (regulatory = true ∨ iso = false ∧
        (dataResidency = true ∨ technology = true ∨ aws = false)) := by
  simp only [Bool.forall_bool]
  -- In the order of the cascade: a test that holds settles the type.
  cases timeline
  case true => simp [cascade]
  cases budget
  case true => simp [cascade]
  cases currency
  case true => cases regulatory <;> cases dataResidency <;> cases technology <;> simp [cascade]
  cases regulatory
  case true => simp [cascade]
  cases iso
  case true => cases dataResidency <;> cases technology <;> simp [cascade]
  cases dataResidency
  case true => simp [cascade]
  cases technology <;> cases aws <;> simp [cascade]

/-! ## Tests on a padded text -/

section Padded

variable {front back text : Text}

/-- White space around a text. -/
structure Around (front back : Text) : Prop where
  front : ∀ code ∈ front, Text.isWhiteSpace code = true
  back : ∀ code ∈ back, Text.isWhiteSpace code = true

theorem contains_padded (around : Around front back) {pattern : Text}
    (starts : startsSolid Text.isWhiteSpace pattern = true)
    (ends : endsSolid Text.isWhiteSpace pattern = true) :
    (front ++ text ++ back).contains pattern = text.contains pattern := by
  rw [Text.contains, Text.contains, decide_eq_decide,
    Padding.infix_append_right ends around.back, Padding.infix_append_left starts around.front]

/-- Keywords without a blank at an edge. -/
theorem mentions_padded (around : Around front back) {words : List String}
    (solid : (words.all fun word => startsSolid Text.isWhiteSpace (Text.ofString word) &&
      endsSolid Text.isWhiteSpace (Text.ofString word)) = true) :
    mentions (front ++ text ++ back) words = mentions text words := by
  induction words with
  | nil => rfl
  | cons word words ih =>
      rw [List.all_eq_true, List.forall_mem_cons, Bool.and_eq_true] at solid
      have rest := ih (List.all_eq_true.mpr solid.2)
      rw [mentions, mentions] at rest ⊢
      rw [List.any_cons, List.any_cons, rest, contains_padded around solid.1.1 solid.1.2]

/-- A sign that is looked for behind a blank. -/
theorem contains_sign (around : Around front back) {sign : Text}
    (starts : startsSolid Text.isWhiteSpace sign = true)
    (ends : endsSolid Text.isWhiteSpace (32 :: sign) = true) :
    (front ++ text ++ back).contains (32 :: sign) =
      (text.contains (32 :: sign) || (front.getLast? == some 32 && sign.isPrefixOf text)) := by
  rw [Bool.eq_iff_iff, Bool.or_eq_true, Bool.and_eq_true, Text.contains, Text.contains,
    decide_eq_true_iff, decide_eq_true_iff, beq_iff_eq, List.isPrefixOf_iff_prefix,
    Padding.infix_append_right ends around.back,
    Padding.cons_infix_append_left starts around.front]

/-- A word that is looked for in front of a blank. -/
theorem contains_word (around : Around front back) {word : Text}
    (starts : startsSolid Text.isWhiteSpace (word ++ [32]) = true)
    (ends : endsSolid Text.isWhiteSpace word = true) :
    (front ++ text ++ back).contains (word ++ [32]) =
      (text.contains (word ++ [32]) || (back.head? == some 32 && word.isSuffixOf text)) := by
  rw [Bool.eq_iff_iff, Bool.or_eq_true, Bool.and_eq_true, Text.contains, Text.contains,
    decide_eq_true_iff, decide_eq_true_iff, beq_iff_eq, List.isSuffixOf_iff_suffix,
    List.append_assoc, Padding.infix_append_left starts around.front,
    Padding.concat_infix_append_right ends around.back]

theorem mentions_budget (around : Around front back) :
    mentions (front ++ text ++ back) budgetWords =
      (mentions text budgetWords ||
        (front.getLast? == some 32 && startsWithCurrency text)) := by
  have pound : Text.ofString " £" = 32 :: Text.ofString "£" := rfl
  have dollar : Text.ofString " $" = 32 :: Text.ofString "$" := rfl
  simp only [mentions, budgetWords, List.any_cons, List.any_nil, pound, dollar,
    startsWithCurrency]
  rw [contains_padded around (by decide) (by decide), contains_sign around (by decide) (by decide),
    contains_sign around (by decide) (by decide), contains_padded around (by decide) (by decide)]
  cases front.getLast? == some 32 <;> grind

theorem mentions_append (text : Text) (before after : List String) :
    mentions text (before ++ after) = (mentions text before || mentions text after) :=
  List.any_append

/-- One keyword ends with a blank. -/
theorem mentions_spaced (around : Around front back) (word : String) {spaced : String}
    (blank : Text.ofString spaced = Text.ofString word ++ [32])
    (starts : startsSolid Text.isWhiteSpace (Text.ofString spaced) = true)
    (ends : endsSolid Text.isWhiteSpace (Text.ofString word) = true) (before after : List String)
    (solid : ((before ++ after).all fun word =>
      startsSolid Text.isWhiteSpace (Text.ofString word) &&
        endsSolid Text.isWhiteSpace (Text.ofString word)) = true) :
    mentions (front ++ text ++ back) (before ++ spaced :: after) =
      (mentions text (before ++ spaced :: after) ||
        (back.head? == some 32 && endsWith word text)) := by
  rw [List.all_append, Bool.and_eq_true] at solid
  have single (text : Text) : mentions text (spaced :: after) =
      (text.contains (Text.ofString word ++ [32]) || mentions text after) := by
    rw [mentions, List.any_cons, blank, mentions]
  rw [blank] at starts
  rw [mentions_append, mentions_append, single, single, mentions_padded around solid.1,
    mentions_padded around solid.2, contains_word around starts ends, endsWith]
  cases mentions text before <;> cases mentions text after <;> simp

end Padded

/-! ## Types of padded values -/

/-- The value between two optional blanks. -/
def spaced (opens closes : Bool) (value : String) : String :=
  (if opens then " " else "") ++ trim value ++ (if closes then " " else "")

/-- White space can change no test that decides the type of the value. -/
def Settled (value : String) : Prop :=
  let lower := Text.lower (.ofString (trim value))
  mentions lower timelineWords = true ∨ mentions lower budgetWords = true ∨
    startsWithCurrency lower = false ∧
      (mentions lower regulatoryWords = true ∨ endsWith "iso" lower = false ∧
        (mentions lower dataResidencyWords = true ∨ mentions lower technologyWords = true ∨
          endsWith "aws" lower = false))

section Values

variable {value other : String}

theorem exists_around (value : String) :
    ∃ front back, Around front back ∧
      Text.ofString value = front ++ Text.ofString (trim value) ++ back := by
  obtain ⟨front, back, frontBlank, backBlank, padded⟩ :=
    Padding.exists_padding (fun char : Char => Text.isWhiteSpace char.toNat) value.toList
  refine ⟨front.map Char.toNat, back.map Char.toNat,
    ⟨List.forall_mem_map.mpr frontBlank, List.forall_mem_map.mpr backBlank⟩, ?_⟩
  have codes := congrArg (List.map Char.toNat) padded
  rw [List.map_append, List.map_append] at codes
  rw [Text.ofString, codes, Text.ofString, trim, String.toList_ofList]

/-- The lower-cased value is the lower-cased trimmed value with white space around. -/
theorem exists_lower (value : String) :
    ∃ front back, Around front back ∧ Text.lower (.ofString value) =
      front ++ Text.lower (.ofString (trim value)) ++ back := by
  obtain ⟨front, back, around, padded⟩ := exists_around value
  refine ⟨front, back, around, ?_⟩
  rw [padded, Text.lower_padded around.front around.back]

/-- The type of a value by its trimmed text and the blanks next to it. -/
theorem constraintType_eq [Runtime] (id : Uuid) {front back lower : Text}
    (around : Around front back)
    (padded : Text.lower (.ofString value) = front ++ lower ++ back) :
    (DraftConstraint.fromEntityValue id value).constraintType =
      cascade (mentions lower timelineWords)
        (mentions lower budgetWords || (front.getLast? == some 32 && startsWithCurrency lower))
        (mentions lower regulatoryWords || (back.head? == some 32 && endsWith "iso" lower))
        (mentions lower dataResidencyWords)
        (mentions lower technologyWords || (back.head? == some 32 && endsWith "aws" lower)) := by
  have regulatory : mentions (front ++ lower ++ back) regulatoryWords = _ :=
    mentions_spaced around "iso" rfl (by decide) (by decide)
      ["gdpr", "hipaa", "fca", "regulatory", "compliance"] [] (by decide)
  have technology : mentions (front ++ lower ++ back) technologyWords = _ :=
    mentions_spaced around "aws" rfl (by decide) (by decide)
      ["technology", "platform", "stack", "azure"] ["gcp"] (by decide)
  rw [constraintType_fromEntityValue, padded, mentions_padded around (by decide),
    mentions_budget around, regulatory, mentions_padded around (by decide), technology]
  rfl

theorem trim_spaced (opens closes : Bool) (value : String) :
    trim (spaced opens closes value) = trim value := by
  have blank (flag : Bool) : ∀ char ∈ (if flag then " " else "").toList,
      Text.isWhiteSpace char.toNat = true := by
    cases flag with
    | false => exact List.forall_mem_nil _
    | true => exact List.forall_mem_singleton.mpr rfl
  rw [spaced, trim, String.toList_append, String.toList_append,
    Padding.trimBy_padded (blank opens) (blank closes)]
  conv_rhs => rw [trim]
  rw [trim, String.toList_ofList, Padding.trimBy_trimBy]

theorem constraintType_spaced [Runtime] (id : Uuid) (opens closes : Bool) (value : String) :
    (DraftConstraint.fromEntityValue id (spaced opens closes value)).constraintType =
      cascade (mentions (Text.lower (.ofString (trim value))) timelineWords)
        (mentions (Text.lower (.ofString (trim value))) budgetWords ||
          (opens && startsWithCurrency (Text.lower (.ofString (trim value)))))
        (mentions (Text.lower (.ofString (trim value))) regulatoryWords ||
          (closes && endsWith "iso" (Text.lower (.ofString (trim value)))))
        (mentions (Text.lower (.ofString (trim value))) dataResidencyWords)
        (mentions (Text.lower (.ofString (trim value))) technologyWords ||
          (closes && endsWith "aws" (Text.lower (.ofString (trim value))))) := by
  have blank (flag : Bool) : ∀ code ∈ Text.ofString (if flag then " " else ""),
      Text.isWhiteSpace code = true := by
    cases flag <;> decide
  have around : Around (Text.ofString (if opens then " " else ""))
      (Text.ofString (if closes then " " else "")) := ⟨blank opens, blank closes⟩
  have padded : Text.lower (.ofString (spaced opens closes value)) =
      Text.ofString (if opens then " " else "") ++ Text.lower (.ofString (trim value)) ++
        Text.ofString (if closes then " " else "") := by
    rw [spaced, Text.ofString_append, Text.ofString_append,
      Text.lower_padded around.front around.back]
  rw [constraintType_eq id around padded]
  cases opens <;> cases closes <;> rfl

/-- Every padded form of the value gives the same types. -/
def IgnoresPadding [Runtime] (value : String) : Prop :=
  ∀ other, trim other = trim value → ∀ id id',
    (DraftConstraint.fromEntityValue id other).constraintType =
      (DraftConstraint.fromEntityValue id' value).constraintType

theorem ignoresPadding_iff [Runtime] (value : String) :
    IgnoresPadding value ↔ Settled value := by
  rw [Settled, ← cascade_const_iff]
  constructor
  · intro ignores opens closes
    have plain := ignores (spaced false false value) (trim_spaced _ _ _) 0 0
    have padded := ignores (spaced opens closes value) (trim_spaced _ _ _) 0 0
    rw [constraintType_spaced] at plain padded
    rw [padded, ← plain]
    simp only [Bool.false_and, Bool.or_false]
  · intro settled other same id id'
    obtain ⟨front, back, around, padded⟩ := exists_lower other
    obtain ⟨front', back', around', padded'⟩ := exists_lower value
    rw [same] at padded
    rw [constraintType_eq id around padded, constraintType_eq id' around' padded', settled, settled]

theorem requirementType_eq [Runtime] (id id' : Uuid) {entity entity' : ExtractedEntity}
    (same : trim entity'.value = trim entity.value) :
    (DraftRequirement.fromEntity id' entity').requirementType =
      (DraftRequirement.fromEntity id entity).requirementType := by
  obtain ⟨front, back, around, padded⟩ := exists_lower entity.value
  obtain ⟨front', back', around', padded'⟩ := exists_lower entity'.value
  rw [requirementType_fromEntity, requirementType_fromEntity, padded, padded', same,
    mentions_padded around (by decide), mentions_padded around' (by decide)]

end Values

/-! ## Lists of constraints -/

/-- The call as one about a constraint. -/
def EntityCall.asConstraint (call : EntityCall) : EntityCall :=
  { call with entity := { call.entity with entityType := "constraint" } }

section Lists

variable [Runtime]

/-- The constraint of a call. -/
def EntityCall.constraint (call : EntityCall) : DraftConstraint :=
  .fromEntityValue call.id call.entity.value

/-- A list of constraints appends each of them. -/
theorem run_asConstraint (state : SessionState) (calls : List EntityCall) :
    ∃ updatedAt, entityMachine.run state (calls.map EntityCall.asConstraint) =
      { state with
        constraints := state.constraints ++ calls.map EntityCall.constraint
        updatedAt } := by
  induction calls generalizing state with
  | nil => exact ⟨state.updatedAt, by simp⟩
  | cons call calls ih =>
      have next : entityMachine.next state call.asConstraint =
          { state with
            constraints := state.constraints ++ [call.constraint]
            updatedAt := call.now } := rfl
      obtain ⟨updatedAt, after⟩ := ih (entityMachine.next state call.asConstraint)
      refine ⟨updatedAt, ?_⟩
      rw [List.map_cons, Machines.Machine.run_cons, after, next]
      simp

omit [Runtime] in
/-- The criteria of the phase depend on the types of the constraints alone. -/
theorem s4_evaluate_congr (state : SessionState) {constraints constraints' : List DraftConstraint}
    (same : constraints.map DraftConstraint.constraintType =
      constraints'.map DraftConstraint.constraintType) (updatedAt updatedAt' : DateTime) :
    s4.evaluate { state with constraints, updatedAt } =
      s4.evaluate { state with constraints := constraints', updatedAt := updatedAt' } := by
  have tests (kind : ConstraintType) : constraints.any (·.constraintType == kind) =
      constraints'.any (·.constraintType == kind) := by
    have mapped := congrArg (List.any · (· == kind)) same
    rw [List.any_map, List.any_map] at mapped
    exact mapped
  simp only [s4.evaluate, s4.checks, tests]

/-- The calls deliver values that differ at most in the white space around them. -/
def SamePadding (call other : EntityCall) : Prop :=
  trim other.entity.value = trim call.entity.value

/-- Values that differ in the white space around them have the same types, as requirements and
as constraints, and the phase evaluates its criteria alike after either list. -/
def PaddingIgnored (calls : List EntityCall) : Prop :=
  ∀ others, List.Forall₂ SamePadding calls others →
    List.Forall₂ (fun call other : EntityCall =>
      (DraftRequirement.fromEntity other.id other.entity).requirementType =
          (DraftRequirement.fromEntity call.id call.entity).requirementType ∧
        other.constraint.constraintType = call.constraint.constraintType) calls others ∧
      ∀ state, s4.evaluate (entityMachine.run state (others.map EntityCall.asConstraint)) =
        s4.evaluate (entityMachine.run state (calls.map EntityCall.asConstraint))

theorem map_constraintType_eq {calls others : List EntityCall}
    (types : List.Forall₂ (fun call other : EntityCall =>
      other.constraint.constraintType = call.constraint.constraintType) calls others) :
    (others.map EntityCall.constraint).map DraftConstraint.constraintType =
      (calls.map EntityCall.constraint).map DraftConstraint.constraintType := by
  induction types with
  | nil => rfl
  | cons same _ ih => simp only [List.map_cons, same, ih]

/-- Another value is delivered where this one was. -/
def EntityCall.replacing (value other : String) (call : EntityCall) : EntityCall :=
  if call.entity.value = value then { call with entity := { call.entity with value := other } }
  else call

omit [Runtime] in
theorem samePadding_replacing {value other : String} (same : trim other = trim value)
    (call : EntityCall) : SamePadding call (call.replacing value other) := by
  by_cases delivered : call.entity.value = value
  · rw [EntityCall.replacing, if_pos delivered, SamePadding, delivered]
    exact same
  · rw [EntityCall.replacing, if_neg delivered]
    rfl

/-- A list for which padding is ignored ignores it around each of its values. -/
theorem ignoresPadding_of_mem {calls : List EntityCall} (ignored : PaddingIgnored calls)
    {call : EntityCall} (member : call ∈ calls) : IgnoresPadding call.entity.value := by
  intro other same id id'
  have padded : List.Forall₂ SamePadding calls
      (calls.map (EntityCall.replacing call.entity.value other)) := by
    rw [List.forall₂_map_right_iff, List.forall₂_same]
    exact fun call' _ => samePadding_replacing same call'
  have types := (ignored _ padded).1
  rw [List.forall₂_map_right_iff, List.forall₂_same] at types
  have type := (types call member).2
  rw [EntityCall.replacing, if_pos rfl] at type
  exact type

theorem types_of_settled {calls others : List EntityCall}
    (padded : List.Forall₂ SamePadding calls others)
    (settled : ∀ call ∈ calls, Settled call.entity.value) :
    List.Forall₂ (fun call other : EntityCall =>
      (DraftRequirement.fromEntity other.id other.entity).requirementType =
          (DraftRequirement.fromEntity call.id call.entity).requirementType ∧
        other.constraint.constraintType = call.constraint.constraintType) calls others := by
  induction padded with
  | nil => exact .nil
  | cons same _ ih =>
      rw [List.forall_mem_cons] at settled
      have ignored := (ignoresPadding_iff _).mpr settled.1
      exact .cons ⟨requirementType_eq _ _ same, ignored _ same _ _⟩ (ih settled.2)

/-- White space around the values of a list is ignored exactly when it can change no test that
decides the type of one of them. -/
theorem paddingIgnored_iff (calls : List EntityCall) :
    PaddingIgnored calls ↔ ∀ call ∈ calls, Settled call.entity.value := by
  constructor
  · intro ignored call member
    exact (ignoresPadding_iff _).mp (ignoresPadding_of_mem ignored member)
  · intro settled others padded
    have types := types_of_settled padded settled
    refine ⟨types, fun state => ?_⟩
    obtain ⟨updatedAt, after⟩ := run_asConstraint state calls
    obtain ⟨updatedAt', after'⟩ := run_asConstraint state others
    rw [after, after']
    refine s4_evaluate_congr state ?_ updatedAt' updatedAt
    rw [List.map_append, List.map_append, map_constraintType_eq (types.imp fun _ _ => And.right)]

end Lists

/-! ### A platform at the end of a sentence -/

section Sample

attribute [local instance] referenceRuntime

/-- The value with a blank behind it is a technology constraint, the value is none. -/
theorem not_paddingIgnored_of_samplePlatform : ¬∀ calls, PaddingIgnored calls := by
  intro all
  let call (value : String) : EntityCall :=
    ⟨0xB1, 1700000000000000000, ⟨"constraint", value, .finite 1, "conversation", []⟩⟩
  have padded : List.Forall₂ SamePadding [call "must run on AWS"] [call "must run on AWS "] :=
    .cons (show trim _ = trim _ by decide +kernel) .nil
  have types := (all _ _ padded).1
  rw [List.forall₂_cons] at types
  exact absurd types.1.2 (by decide +kernel)

end Sample

end Chitragupt
