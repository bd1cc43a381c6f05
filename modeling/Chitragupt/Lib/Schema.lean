import Mathlib.Data.List.Basic

/-!
# Schemas of nested sections

A document is a tree of named entries whose leaves carry values.  A schema is such a tree
whose leaves declare a type and a default.  Validation keeps the entries that the schema
declares, takes the default of the missing ones, and ignores every other entry; so an entry
survives exactly when the schema declares a leaf at its path.
-/

/-- A tree of named entries with values at its leaves. -/
inductive NamedTree (α : Type) where
  | leaf (value : α)
  | branch (entries : List (String × NamedTree α))

namespace NamedTree

variable {α : Type}

/-- The value of the leaf at a path. -/
def leafAt : NamedTree α → List String → Option α
  | .leaf value, [] => some value
  | .leaf _, _ :: _ => none
  | .branch _, [] => none
  | .branch entries, name :: path =>
      match entries.lookup name with
      | some entry => entry.leafAt path
      | none => none

mutual

/-- The paths of all leaves. -/
def leafPaths : NamedTree α → List (List String)
  | .leaf _ => [[]]
  | .branch entries => entryPaths entries

def entryPaths : List (String × NamedTree α) → List (List String)
  | [] => []
  | (name, entry) :: rest => entry.leafPaths.map (name :: ·) ++ entryPaths rest

end

variable {β : Type}

mutual

/-- The same tree with other values. -/
def map (f : α → β) : NamedTree α → NamedTree β
  | .leaf value => .leaf (f value)
  | .branch entries => .branch (mapEntries f entries)

def mapEntries (f : α → β) : List (String × NamedTree α) → List (String × NamedTree β)
  | [] => []
  | (name, entry) :: rest => (name, entry.map f) :: mapEntries f rest

end

theorem lookup_mapEntries (f : α → β) (entries : List (String × NamedTree α)) (name : String) :
    (mapEntries f entries).lookup name = (entries.lookup name).map (map f) := by
  induction entries with
  | nil => rfl
  | cons head rest ih =>
      rcases head with ⟨other, entry⟩
      rw [mapEntries, List.lookup_cons, List.lookup_cons, ih]
      cases name == other <;> rfl

theorem leafAt_branch_cons (entries : List (String × NamedTree α)) (name : String)
    (path : List String) :
    (branch entries).leafAt (name :: path) = (entries.lookup name).bind (·.leafAt path) := by
  rw [leafAt]
  cases entries.lookup name <;> rfl

/-- The first entry answers for its name, the others for every other name. -/
theorem leafAt_branch_entry (other : String) (entry : NamedTree α)
    (rest : List (String × NamedTree α)) (name : String) (path : List String) :
    (branch ((other, entry) :: rest)).leafAt (name :: path) =
      if name == other then entry.leafAt path else (branch rest).leafAt (name :: path) := by
  simp only [leafAt_branch_cons, List.lookup_cons]
  cases name == other <;> rfl

mutual

theorem mem_leafPaths {value : α} : (tree : NamedTree α) → {path : List String} →
    tree.leafAt path = some value → path ∈ tree.leafPaths
  | .leaf _, path, found => by
      cases path with
      | nil => exact List.mem_singleton_self _
      | cons name path => cases found
  | .branch entries, path, found => by
      cases path with
      | nil => cases found
      | cons name path => exact mem_entryPaths entries found

theorem mem_entryPaths {value : α} : (entries : List (String × NamedTree α)) →
    {name : String} → {path : List String} →
    (branch entries).leafAt (name :: path) = some value → name :: path ∈ entryPaths entries
  | [], _, _, found => by cases found
  | (other, entry) :: rest, name, path, found => by
      rw [leafAt_branch_entry] at found
      rw [entryPaths, List.mem_append]
      split at found
      next same =>
        left
        rw [eq_of_beq same]
        exact List.mem_map_of_mem (mem_leafPaths entry found)
      next => exact .inr (mem_entryPaths rest found)

end

end NamedTree

/-- A declared leaf: its type and the value taken when the document has none. -/
structure Declared {Kind : Type} (Carrier : Kind → Type) where
  kind : Kind
  default : Carrier kind

abbrev Schema {Kind : Type} (Carrier : Kind → Type) := NamedTree (Declared Carrier)

/-- How the value of a document's leaf becomes a value of the declared type.  A value that has
the type already is returned unchanged; what happens to the others is left open. -/
structure LeafConversion {Kind Value : Type} {Carrier : Kind → Type}
    (embed : (kind : Kind) → Carrier kind → Value) where
  convert : (kind : Kind) → Value → Option (Carrier kind)
  convert_embed : ∀ (kind : Kind) (value : Carrier kind), convert kind (embed kind value) = some value

namespace Schema

variable {Kind Value : Type} {Carrier : Kind → Type}

/-! ## Objects of a schema -/

mutual

/-- The objects of a schema: a value of its type for every declared leaf. -/
def Instance : Schema Carrier → Type
  | .leaf declared => Carrier declared.kind
  | .branch fields => Attributes fields

def Attributes : List (String × Schema Carrier) → Type
  | [] => Unit
  | (_, schema) :: rest => Instance schema × Attributes rest

end

mutual

/-- The object with the default at every leaf. -/
def default : (schema : Schema Carrier) → Instance schema
  | .leaf declared => declared.default
  | .branch fields => defaults fields

def defaults : (fields : List (String × Schema Carrier)) → Attributes fields
  | [] => ()
  | (_, schema) :: rest => (default schema, defaults rest)

end

variable (embed : (kind : Kind) → Carrier kind → Value)

mutual

/-- Read the attributes of an object along a path, down to the value of a leaf. -/
def read : (schema : Schema Carrier) → Instance schema → List String → Option Value
  | .leaf declared, value, [] => some (embed declared.kind value)
  | .leaf _, _, _ :: _ => none
  | .branch _, _, [] => none
  | .branch fields, values, name :: path => readField fields values name path

def readField : (fields : List (String × Schema Carrier)) → Attributes fields → String →
    List String → Option Value
  | [], _, _, _ => none
  | (other, schema) :: rest, (value, others), name, path =>
      if name == other then read schema value path else readField rest others name path

end

mutual

/-- A fresh object has the declared defaults. -/
theorem read_default : (schema : Schema Carrier) → (path : List String) →
    read embed schema (default schema) path =
      (schema.leafAt path).map fun declared => embed declared.kind declared.default
  | .leaf declared, path => by cases path <;> rfl
  | .branch fields, path => by
      cases path with
      | nil => rfl
      | cons name path => exact readField_defaults fields name path

theorem readField_defaults : (fields : List (String × Schema Carrier)) → (name : String) →
    (path : List String) →
    readField embed fields (defaults fields) name path =
      ((NamedTree.branch fields).leafAt (name :: path)).map
        fun declared => embed declared.kind declared.default
  | [], _, _ => rfl
  | (other, schema) :: rest, name, path => by
      rw [NamedTree.leafAt_branch_entry, defaults, readField, apply_ite (Option.map _),
        read_default schema path, readField_defaults rest name path]

end

mutual

/-- An object has a value exactly where its schema declares a leaf. -/
theorem isSome_read : (schema : Schema Carrier) → (object : Instance schema) →
    (path : List String) → (read embed schema object path).isSome = (schema.leafAt path).isSome
  | .leaf declared, object, path => by cases path <;> rfl
  | .branch fields, object, path => by
      cases path with
      | nil => rfl
      | cons name path => exact isSome_readField fields object name path

theorem isSome_readField : (fields : List (String × Schema Carrier)) →
    (values : Attributes fields) → (name : String) → (path : List String) →
    (readField embed fields values name path).isSome =
      ((NamedTree.branch fields).leafAt (name :: path)).isSome
  | [], _, _, _ => rfl
  | (other, schema) :: rest, (value, others), name, path => by
      rw [NamedTree.leafAt_branch_entry, readField, apply_ite Option.isSome,
        apply_ite Option.isSome, isSome_read schema value path,
        isSome_readField rest others name path]

end

/-! ## Validation -/

/-- The paths of the entries that validation refused. -/
abbrev Refused := List (List String)

/-- Two results at once; the refusals of both are reported. -/
def both {α β : Type} : Except Refused α → Except Refused β → Except Refused (α × β)
  | .ok first, .ok second => .ok (first, second)
  | .ok _, .error refused => .error refused
  | .error refused, .ok _ => .error refused
  | .error refused, .error others => .error (refused ++ others)

theorem both_eq_ok {α β : Type} {first : Except Refused α} {second : Except Refused β}
    {result : α × β} :
    both first second = .ok result ↔ first = .ok result.1 ∧ second = .ok result.2 := by
  cases first <;> cases second <;> simp [both, Prod.ext_iff]

/-- A refusal inside an entry is reported with the entry's name. -/
def under {α : Type} (name : String) : Except Refused α → Except Refused α
  | .ok value => .ok value
  | .error refused => .error (refused.map (name :: ·))

@[simp] theorem under_eq_ok {α : Type} {name : String} {checked : Except Refused α} {value : α} :
    under name checked = .ok value ↔ checked = .ok value := by
  cases checked <;> simp [under]

variable {embed}

mutual

/-- Validate a document against a schema; every refused entry is reported. -/
def validate (conversion : LeafConversion embed) :
    (schema : Schema Carrier) → NamedTree Value → Except Refused (Instance schema)
  | .leaf declared, .leaf value =>
      match conversion.convert declared.kind value with
      | some converted => .ok converted
      | none => .error [[]]
  | .leaf _, .branch _ => .error [[]]
  | .branch _, .leaf _ => .error [[]]
  | .branch fields, .branch entries => validateFields conversion fields entries

def validateFields (conversion : LeafConversion embed) :
    (fields : List (String × Schema Carrier)) → List (String × NamedTree Value) →
    Except Refused (Attributes fields)
  | [], _ => .ok ()
  | (name, schema) :: rest, entries =>
      both
        (match entries.lookup name with
        | none => .ok (default schema)
        | some entry => under name (validate conversion schema entry))
        (validateFields conversion rest entries)

end

variable {conversion : LeafConversion embed}

/-- A leaf is accepted with what its value is converted to. -/
theorem validate_leaf_eq_ok {declared : Declared Carrier} {document : NamedTree Value}
    {object : Carrier declared.kind} :
    validate conversion (.leaf declared) document = .ok object ↔
      ∃ value, document = .leaf value ∧
        conversion.convert declared.kind value = some object := by
  cases document with
  | branch entries => simp [validate]
  | leaf value =>
      rw [validate]
      cases converted : conversion.convert declared.kind value with
      | none => simp [converted]
      | some result =>
          constructor
          · intro accepted
            exact ⟨value, rfl, converted.trans (congrArg some (Except.ok.inj accepted))⟩
          · intro ⟨other, same, fits⟩
            obtain rfl := NamedTree.leaf.inj same
            exact congrArg Except.ok (Option.some.inj (converted.symm.trans fits))

/-- A section is accepted when each of its fields is: the entry of a field by the field's
schema, a missing entry with the default. -/
theorem validateFields_cons_eq_ok {name : String} {schema : Schema Carrier}
    {rest : List (String × Schema Carrier)} {entries : List (String × NamedTree Value)}
    {value : Instance schema} {others : Attributes rest} :
    validateFields conversion ((name, schema) :: rest) entries = .ok (value, others) ↔
      (match entries.lookup name with
        | none => default schema = value
        | some entry => validate conversion schema entry = .ok value) ∧
      validateFields conversion rest entries = .ok others := by
  refine both_eq_ok.trans (and_congr_left fun _ => ?_)
  cases entries.lookup name with
  | none => exact ⟨Except.ok.inj, congrArg Except.ok⟩
  | some entry => exact under_eq_ok

/-- What an object holds where the schema declares a leaf: the converted value of the
document, or the default. -/
def loaded (conversion : LeafConversion embed) (document : NamedTree Value) (path : List String)
    (declared : Declared Carrier) : Option Value :=
  match document.leafAt path with
  | some value => (conversion.convert declared.kind value).map (embed declared.kind)
  | none => some (embed declared.kind declared.default)

theorem loaded_entry {entries : List (String × NamedTree Value)} {name : String}
    {entry : NamedTree Value} (found : entries.lookup name = some entry) (path : List String) :
    loaded conversion (.branch entries) (name :: path) = loaded conversion entry path := by
  funext declared
  rw [loaded, NamedTree.leafAt_branch_cons, found]
  rfl

theorem loaded_missing {entries : List (String × NamedTree Value)} {name : String}
    (missing : entries.lookup name = none) (path : List String) :
    loaded conversion (.branch entries) (name :: path) =
      fun declared => some (embed declared.kind declared.default) := by
  funext declared
  rw [loaded, NamedTree.leafAt_branch_cons, missing]
  rfl

mutual

/-- A validated object has a value at the declared leaves and nowhere else. -/
theorem read_validate : (schema : Schema Carrier) → {document : NamedTree Value} →
    {object : Instance schema} → validate conversion schema document = .ok object →
    (path : List String) →
    read embed schema object path = (schema.leafAt path).bind (loaded conversion document path)
  | .leaf declared, document, object, accepted, path => by
      obtain ⟨value, rfl, converted⟩ := validate_leaf_eq_ok.mp accepted
      cases path with
      | nil =>
          change some (embed declared.kind object) = Option.map _ _
          rw [converted]
          rfl
      | cons name path => rfl
  | .branch fields, document, object, accepted, path => by
      cases document with
      | leaf value => cases accepted
      | branch entries =>
          cases path with
          | nil => rfl
          | cons name path => exact readField_validateFields fields accepted name path

theorem readField_validateFields : (fields : List (String × Schema Carrier)) →
    {entries : List (String × NamedTree Value)} → {values : Attributes fields} →
    validateFields conversion fields entries = .ok values →
    (name : String) → (path : List String) →
    readField embed fields values name path =
      ((NamedTree.branch fields).leafAt (name :: path)).bind
        (loaded conversion (.branch entries) (name :: path))
  | [], _, _, _, _, _ => rfl
  | (other, schema) :: rest, entries, (value, others), accepted, name, path => by
      obtain ⟨first, accepted⟩ := validateFields_cons_eq_ok.mp accepted
      rw [readField, NamedTree.leafAt_branch_entry]
      split
      next same =>
        obtain rfl := eq_of_beq same
        cases found : entries.lookup name with
        | none =>
            rw [found] at first
            rw [← first, read_default, loaded_missing found]
            exact Option.map_eq_bind
        | some entry =>
            rw [found] at first
            rw [read_validate schema first path, loaded_entry found]
      next => exact readField_validateFields rest accepted name path

end

/-! ## Accepted documents -/

mutual

/-- Every entry of the document that the schema declares is a section where the schema has a
section, and a convertible value where it has a leaf. -/
def Fits (conversion : LeafConversion embed) : Schema Carrier → NamedTree Value → Prop
  | .leaf declared, document =>
      ∃ value, document = .leaf value ∧ (conversion.convert declared.kind value).isSome
  | .branch fields, document =>
      ∃ entries, document = .branch entries ∧ FieldsFit conversion fields entries

def FieldsFit (conversion : LeafConversion embed) :
    List (String × Schema Carrier) → List (String × NamedTree Value) → Prop
  | [], _ => True
  | (name, schema) :: rest, entries =>
      (∀ entry, entries.lookup name = some entry → Fits conversion schema entry) ∧
        FieldsFit conversion rest entries

end

mutual

theorem exists_validate_iff : (schema : Schema Carrier) → {document : NamedTree Value} →
    ((∃ object, validate conversion schema document = .ok object) ↔
      Fits conversion schema document)
  | .leaf declared, document => by
      simp only [Fits, Option.isSome_iff_exists]
      constructor
      · rintro ⟨object, accepted⟩
        obtain ⟨value, rfl, converted⟩ := validate_leaf_eq_ok.mp accepted
        exact ⟨value, rfl, object, converted⟩
      · rintro ⟨value, rfl, object, converted⟩
        exact ⟨object, validate_leaf_eq_ok.mpr ⟨value, rfl, converted⟩⟩
  | .branch fields, document => by
      simp only [Fits]
      cases document with
      | leaf value => simp [validate]
      | branch entries =>
          refine (exists_validateFields_iff fields).trans ?_
          simp

theorem exists_validateFields_iff : (fields : List (String × Schema Carrier)) →
    {entries : List (String × NamedTree Value)} →
    ((∃ values, validateFields conversion fields entries = .ok values) ↔
      FieldsFit conversion fields entries)
  | [], _ => ⟨fun _ => trivial, fun _ => ⟨(), rfl⟩⟩
  | (name, schema) :: rest, entries => by
      simp only [FieldsFit]
      rw [← exists_validateFields_iff rest]
      constructor
      · rintro ⟨⟨value, others⟩, accepted⟩
        obtain ⟨first, accepted⟩ := validateFields_cons_eq_ok.mp accepted
        refine ⟨fun entry found => ?_, others, accepted⟩
        rw [found] at first
        exact (exists_validate_iff schema).mp ⟨value, first⟩
      · rintro ⟨fits, others, accepted⟩
        cases found : entries.lookup name with
        | none =>
            refine ⟨(default schema, others), validateFields_cons_eq_ok.mpr ⟨?_, accepted⟩⟩
            rw [found]
        | some entry =>
            obtain ⟨value, first⟩ := (exists_validate_iff schema).mpr (fits entry found)
            refine ⟨(value, others), validateFields_cons_eq_ok.mpr ⟨?_, accepted⟩⟩
            rw [found]
            exact first

end

/-! ## Documents of a layout -/

variable (embed) in
/-- The document has the keys of the layout, with a value of its kind at each leaf. -/
inductive Matches : NamedTree Kind → NamedTree Value → Prop where
  | leaf (kind : Kind) (value : Carrier kind) : Matches (.leaf kind) (.leaf (embed kind value))
  | branch {parts : List (String × NamedTree Kind)} {entries : List (String × NamedTree Value)}
      (keys : ∀ name, (entries.lookup name).isSome = (parts.lookup name).isSome)
      (alike : ∀ {name part entry}, parts.lookup name = some part →
        entries.lookup name = some entry → Matches part entry) :
      Matches (.branch parts) (.branch entries)

/-- A document of a layout has leaves where the layout has them, of their kind. -/
theorem leafAt_of_matches {layout : NamedTree Kind} {document : NamedTree Value}
    (alike : Matches embed layout document) (path : List String) :
    match layout.leafAt path with
    | some kind => ∃ value, document.leafAt path = some (embed kind value)
    | none => document.leafAt path = none := by
  induction alike generalizing path with
  | leaf kind value =>
      cases path with
      | nil => exact ⟨value, rfl⟩
      | cons name path => rfl
  | @branch parts entries keys alike ih =>
      cases path with
      | nil => rfl
      | cons name path =>
          rw [NamedTree.leafAt_branch_cons, NamedTree.leafAt_branch_cons]
          have sameKeys := keys name
          cases found : parts.lookup name with
          | none =>
              have missing : entries.lookup name = none := by simpa [found] using sameKeys
              rw [missing]
              rfl
          | some part =>
              rw [found] at sameKeys
              obtain ⟨entry, there⟩ := Option.isSome_iff_exists.mp sameKeys
              rw [there]
              exact ih found there path

/-- The kinds of a schema's leaves. -/
def layout (schema : Schema Carrier) : NamedTree Kind := schema.map Declared.kind

variable (embed) in
/-- The document that spells out the value of every leaf. -/
def document (schema : Schema Carrier) : NamedTree Value :=
  schema.map fun declared => embed declared.kind declared.default

mutual

theorem matches_document : (schema : Schema Carrier) →
    Matches embed (layout schema) (document embed schema)
  | .leaf declared => .leaf declared.kind declared.default
  | .branch fields => by
      refine .branch (fun name => ?_) fun found there => fields_match fields found there
      rw [NamedTree.lookup_mapEntries, NamedTree.lookup_mapEntries, Option.isSome_map,
        Option.isSome_map]

theorem fields_match : (fields : List (String × Schema Carrier)) → {name : String} →
    {part : NamedTree Kind} → {entry : NamedTree Value} →
    (NamedTree.mapEntries Declared.kind fields).lookup name = some part →
    (NamedTree.mapEntries (fun declared => embed declared.kind declared.default)
      fields).lookup name = some entry →
    Matches embed part entry
  | [], _, _, _, found, _ => by cases found
  | (other, schema) :: rest, name, part, entry, found, there => by
      rw [NamedTree.mapEntries, List.lookup_cons] at found there
      split at found
      next same =>
        rw [same] at there
        obtain rfl := Option.some.inj found
        obtain rfl := Option.some.inj there
        exact matches_document schema
      next apart =>
        rw [apart] at there
        exact fields_match rest found there

end

variable [DecidableEq Kind]

mutual

/-- Where both the schema and the layout have an entry, it is a section in both or a leaf of
one kind. -/
def agrees : Schema Carrier → NamedTree Kind → Bool
  | .leaf declared, .leaf kind => declared.kind = kind
  | .leaf _, .branch _ => false
  | .branch _, .leaf _ => false
  | .branch fields, .branch parts => fieldsAgree fields parts

def fieldsAgree : List (String × Schema Carrier) → List (String × NamedTree Kind) → Bool
  | [], _ => true
  | (name, schema) :: rest, parts =>
      (match parts.lookup name with
        | some part => agrees schema part
        | none => true) &&
      fieldsAgree rest parts

end

theorem fieldsAgree_lookup {fields : List (String × Schema Carrier)}
    {parts : List (String × NamedTree Kind)} (agreed : fieldsAgree fields parts = true)
    {name : String} {schema : Schema Carrier} (declared : fields.lookup name = some schema)
    {part : NamedTree Kind} (found : parts.lookup name = some part) :
    agrees schema part = true := by
  induction fields with
  | nil => cases declared
  | cons field rest ih =>
      rw [fieldsAgree, Bool.and_eq_true] at agreed
      rw [List.lookup_cons] at declared
      split at declared
      next same =>
        obtain rfl := Option.some.inj declared
        rw [eq_of_beq same] at found
        simpa [found] using agreed.1
      next => exact ih agreed.2 declared

/-- A leaf of both has one kind in both. -/
theorem kind_eq_of_agrees {schema : Schema Carrier} {layout : NamedTree Kind}
    (agreed : agrees schema layout = true) {path : List String} {declared : Declared Carrier}
    {kind : Kind} (isDeclared : schema.leafAt path = some declared)
    (inLayout : layout.leafAt path = some kind) : declared.kind = kind := by
  induction path generalizing schema layout with
  | nil =>
      cases schema with
      | branch fields => cases isDeclared
      | leaf own =>
          cases layout with
          | branch parts => cases inLayout
          | leaf other =>
              obtain rfl := Option.some.inj isDeclared
              obtain rfl := Option.some.inj inLayout
              simpa [agrees] using agreed
  | cons name path ih =>
      cases schema with
      | leaf own => cases isDeclared
      | branch fields =>
          cases layout with
          | leaf other => cases inLayout
          | branch parts =>
              rw [NamedTree.leafAt_branch_cons, Option.bind_eq_some_iff] at isDeclared inLayout
              obtain ⟨field, declaredField, isDeclared⟩ := isDeclared
              obtain ⟨part, found, inLayout⟩ := inLayout
              exact ih (fieldsAgree_lookup agreed declaredField found) isDeclared inLayout

mutual

theorem fits_of_matches (conversion : LeafConversion embed) : (schema : Schema Carrier) →
    {layout : NamedTree Kind} → {document : NamedTree Value} →
    agrees schema layout = true → Matches embed layout document →
    Fits conversion schema document
  | .leaf declared, _, _, agreed, alike => by
      cases alike with
      | branch keys alike => cases agreed
      | leaf kind value =>
          obtain rfl : declared.kind = kind := by simpa [agrees] using agreed
          refine ⟨_, rfl, ?_⟩
          rw [conversion.convert_embed]
          rfl
  | .branch fields, _, _, agreed, alike => by
      cases alike with
      | leaf kind value => cases agreed
      | branch keys alike =>
          exact ⟨_, rfl, fieldsFit_of_matches conversion fields agreed keys alike⟩

theorem fieldsFit_of_matches (conversion : LeafConversion embed) :
    (fields : List (String × Schema Carrier)) →
    {parts : List (String × NamedTree Kind)} → {entries : List (String × NamedTree Value)} →
    fieldsAgree fields parts = true →
    (∀ name, (entries.lookup name).isSome = (parts.lookup name).isSome) →
    (∀ {name part entry}, parts.lookup name = some part → entries.lookup name = some entry →
      Matches embed part entry) →
    FieldsFit conversion fields entries
  | [], _, _, _, _, _ => trivial
  | (name, schema) :: rest, parts, entries, agreed, keys, alike => by
      rw [fieldsAgree, Bool.and_eq_true] at agreed
      refine ⟨fun entry found => ?_, fieldsFit_of_matches conversion rest agreed.2 keys alike⟩
      have there : (parts.lookup name).isSome = true := by rw [← keys, found]; rfl
      obtain ⟨part, inLayout⟩ := Option.isSome_iff_exists.mp there
      have fieldAgreed : agrees schema part = true := by simpa [inLayout] using agreed.1
      exact fits_of_matches conversion schema fieldAgreed (alike inLayout found)

end

/-- A document of an agreeing layout is accepted.  It keeps its leaves where the schema
declares a leaf; the others are dropped. -/
theorem exists_validate_of_matches (conversion : LeafConversion embed) {schema : Schema Carrier}
    {layout : NamedTree Kind} {document : NamedTree Value}
    (agreed : agrees schema layout = true) (alike : Matches embed layout document) :
    ∃ object, validate conversion schema document = .ok object ∧
      ∀ path value, document.leafAt path = some value →
        read embed schema object path =
          if (schema.leafAt path).isSome then some value else none := by
  obtain ⟨object, accepted⟩ :=
    (exists_validate_iff schema).mpr (fits_of_matches conversion schema agreed alike)
  refine ⟨object, accepted, fun path value given => ?_⟩
  rw [read_validate schema accepted path]
  cases declared : schema.leafAt path with
  | none => rfl
  | some leaf =>
      have there := leafAt_of_matches alike path
      cases inLayout : layout.leafAt path with
      | none => simp [inLayout, given] at there
      | some kind =>
          obtain rfl := kind_eq_of_agrees agreed declared inLayout
          simp only [inLayout, given, Option.some.injEq] at there
          obtain ⟨typed, rfl⟩ := there
          simp [loaded, given, conversion.convert_embed]

end Schema
