import SchemaCodegen.Json.Value

/-!
# Models

The data types that a schema describes, free of any target language. Models name each other, so a
cycle of references is no cycle of values.
-/

namespace SchemaCodegen

/-- What kind of value a field holds. -/
inductive Kind where
  | string
  | integer
  | float
  | boolean
  | dateTime
  | array
  | map
  | reference
  | enum
  | unknown
  deriving DecidableEq, Repr, Inhabited

/-- The type of a field: a kind, perhaps with the name of a model, perhaps with a type of items. A
name counts only for a reference and an item type only for an array, but either may stand with any
kind. -/
inductive FieldType where
  | plain (kind : Kind) (target : Option String)
  | nested (kind : Kind) (target : Option String) (item : FieldType)
  deriving DecidableEq, Repr

namespace FieldType

instance : Inhabited FieldType := ⟨.plain .unknown none⟩

/-- A type that is a kind alone. -/
def of (kind : Kind) : FieldType := .plain kind none

/-- A reference to a model. -/
def reference (target : String) : FieldType := .plain .reference (some target)

/-- An array of items of one type. -/
def array (item : FieldType) : FieldType := .nested .array none item

/-- The kind of a type. -/
def kind : FieldType → Kind
  | .plain kind _ | .nested kind _ _ => kind

/-- The name that stands with a type. -/
def target? : FieldType → Option String
  | .plain _ target | .nested _ target _ => target

/-- The type of items that stands with a type. -/
def item? : FieldType → Option FieldType
  | .plain _ _ => none
  | .nested _ _ item => some item

/-- The target of a reference, unless it is empty. -/
def referenced? (type : FieldType) : Option String :=
  if type.kind = .reference then type.target?.filter (· ≠ "") else none

/-- The models that a value of the type can hold: none, or the innermost reference. -/
def references : FieldType → List String
  | .plain kind target => (referenced? (.plain kind target)).toList
  | .nested .array _ item => references item
  | .nested kind target item => (referenced? (.nested kind target item)).toList

/-- The target of a reference, or of the references that an array holds at some depth. -/
def innermost : FieldType → Option String
  | .plain .reference target => target
  | .nested .reference target _ => target
  | .nested .array _ item => innermost item
  | _ => none

/-- Whether the innermost items are points in time. -/
def holdsDateTime : FieldType → Bool
  | .plain kind _ => kind == .dateTime
  | .nested .array _ item => holdsDateTime item
  | .nested kind _ _ => kind == .dateTime

/-- Whether values are written to JSON in another form: points in time and models, also as the
innermost items of arrays. -/
def isConverted : FieldType → Bool
  | .plain kind _ => kind == .dateTime || kind == .reference
  | .nested .array _ item => isConverted item
  | .nested kind _ _ => kind == .dateTime || kind == .reference

@[simp] theorem references_array (target : Option String) (item : FieldType) :
    references (.nested .array target item) = references item := rfl

/-- A type refers to its innermost target, unless that is empty. -/
theorem references_eq (type : FieldType) :
    type.references = (type.innermost.filter (· ≠ "")).toList := by
  induction type with
  | plain kind target => cases kind <;> rfl
  | nested kind target item ih => cases kind <;> first | exact ih | rfl

end FieldType

/-- A named and typed member of a model. -/
structure Field where
  name : String := ""
  type : FieldType := default
  nullable : Bool := false
  description : Option String := none
  isId : Bool := false
  isUnique : Bool := false
  attributes : Option Json.Value := none
  deriving DecidableEq, Inhabited

/-- One arm of a union: the value of the discriminator that selects it, and its own fields. -/
structure Variant where
  name : Option String := none
  value : Bool := true
  fields : List Field := []
  isDefault : Bool := false
  deriving DecidableEq, Inhabited

/-- One data type. A model with variants is a union, told apart by the field `unionKey`. -/
structure Model where
  name : String := ""
  fields : List Field := []
  description : Option String := none
  isEnum : Bool := false
  isAbstract : Bool := false
  parent : Option String := none
  unionKey : Option String := none
  unionCases : Option (Entries String) := none
  variants : Option (List Variant) := none
  deriving DecidableEq, Inhabited

namespace Model

/-- Whether the model is a union, be it one without arms. -/
def isUnion (model : Model) : Bool := model.variants.isSome

/-- The arms of a union; other models have none. -/
def arms (model : Model) : List Variant := model.variants.getD []

/-- The fields of the model itself and then those of every arm. -/
def allFields (model : Model) : List Field := model.fields ++ model.arms.flatMap (·.fields)

/-- Each name once, at its first place. -/
def distinct (names : List String) : List String :=
  names.foldl (fun seen name => if seen.contains name then seen else seen ++ [name]) []

/-- The models that the fields refer to, each once. -/
def references (model : Model) : List String :=
  distinct (model.allFields.flatMap (·.type.references))

theorem mem_distinct {names : List String} {name : String} :
    name ∈ distinct names ↔ name ∈ names := by
  have grows : ∀ seen, name ∈ names.foldl
      (fun seen name => if seen.contains name then seen else seen ++ [name]) seen ↔
        name ∈ seen ∨ name ∈ names := by
    induction names with
    | nil => simp
    | cons first rest ih =>
      intro seen
      rw [List.foldl_cons, ih]
      by_cases present : first ∈ seen
      · grind
      · grind
  have whole := grows []
  rw [distinct, whole]
  simp

theorem nodup_distinct (names : List String) : (distinct names).Nodup := by
  have stays : ∀ seen : List String, seen.Nodup → (names.foldl
      (fun seen name => if seen.contains name then seen else seen ++ [name]) seen).Nodup := by
    induction names with
    | nil =>
      intro seen different
      exact different
    | cons first rest ih =>
      intro seen different
      rw [List.foldl_cons]
      apply ih
      by_cases present : first ∈ seen
      · simpa [present] using different
      · simp only [List.contains_iff_mem, present, if_false]
        apply List.nodup_append.mpr
        refine ⟨different, by simp, ?_⟩
        intro name isSeen other isFirst same
        apply present
        rw [← List.mem_singleton.mp isFirst, ← same]
        exact isSeen
  apply stays
  simp

end Model

/-- The models of one document, with what the document says about itself. -/
structure Schema where
  models : List Model := []
  version : Option String := none
  metadata : Option Json.Value := none
  deriving DecidableEq, Inhabited

namespace Schema

/-- The names of the models in order. -/
def names (schema : Schema) : List String := schema.models.map (·.name)

/-- The first model of a name. -/
def find? (schema : Schema) (name : String) : Option Model :=
  schema.models.find? (·.name == name)

end Schema

/-- A field of a model that refers to a name. -/
structure Reference where
  model : String
  field : String
  target : String
  deriving DecidableEq, Repr

end SchemaCodegen
