import SchemaCodegen.Python.Annotation
import SchemaCodegen.Python.Conversion
import SchemaCodegen.Python.Helper

/-!
# Python units

How models are rendered in Python. In the style of unions each model is a data class that a library
reads and writes, and a union is an abstract class with one class for each arm. In the plain style a
model is a data class that reads and writes JSON itself. `Module.ofModels` says what a unit holds,
and `Module.written` is its text.
-/

namespace SchemaCodegen.Python

/-! ## Fields -/

/-- Whether the fields of a unit say how they are read and written. -/
def usesLibrary (config : Config) : Bool := config.unions.isOn && config.serialization.isOn

/-- How a value that may be null is written. -/
def encoder (type : FieldType) : Expr := .lambda "v" (dump type true (.name "v"))

/-- How a value is read. -/
def decoder (type : FieldType) : Expr := .lambda "v" (cast type false (.name "v"))

/-- What a field says about its form in JSON: its key if the attribute has another name, and how
points in time are written and read. -/
def metadata (config : Config) (field : Field) : List (String × Expr) :=
  if usesLibrary config then
    (if attributeName field.name = field.name then [] else [("field_name", quoted field.name)]) ++
      if field.type.holdsDateTime then
        [("encoder", encoder field.type), ("decoder", decoder field.type)]
      else []
  else []

/-- The value of a field by default, together with what it says about its form. -/
def fieldValue (metadata : List (String × Expr)) (default : Option Expr) : Option Expr :=
  if metadata.isEmpty then default
  else
    let value := default.toList.map fun e => ("default", e)
    some (.call (.name "field") []
      (value ++ [("metadata", .call (.name "config") [] metadata)]))

/-- A field of a class with its annotation. One that may be null is null by default. -/
def fieldOf (config : Config) (field : Field) (default : Option Expr) (type : Expr) : Part :=
  let default := default <|> if field.nullable then some null else none
  .field (attributeName field.name) type (fieldValue (metadata config field) default)

/-- A field of a class. -/
def fieldPart (config : Config) (field : Field) (default : Option Expr := none) : Outcome Part := do
  return fieldOf config field default (← Expr.read (nullableType field.type field.nullable))

/-- The helpers that the value of a field asks for. -/
def valueHelpers (config : Config) (field : Field) : List Helper :=
  if (metadata config field).isEmpty then []
  else [.field, .config] ++
    if field.type.holdsDateTime && castTakes field.type then [.cast] else []

/-- The helpers that a field asks for. -/
def fieldHelpers (config : Config) (field : Field) : List Helper :=
  Helper.ofType field.type ++ valueHelpers config field

/-- The text that documents a class. -/
def documented (description : Option String) : List Part :=
  match description with
  | none => []
  | some text => if text = "" then [] else [.documentation (Text.strip text)]

/-! ## Classes -/

/-- The decorators of a class; one that a library reads and writes says so. -/
def decorators (config : Config) (withLibrary : Bool) : List Expr :=
  (if withLibrary && config.serialization.isOn then [.name "dataclass_json"] else []) ++
    [.call (.name "dataclass") [] [("kw_only", .literal (.bool true))]]

/-- A type of objects with any values. -/
def anyObject : Expr := .subscript (.name "dict") (.tuple [.name "str", .name "Any"])

/-- A function of the class that reads an object. -/
def reader (returns : String) (body : List Step) : Part :=
  .function {
    name := "from_dict"
    decorators := [.name "classmethod"]
    parameters := [("cls", none), ("data", some anyObject)]
    returns := .name returns
    body }

/-- The object that is read. -/
def data : Expr := .name "data"

/-- A truth value as a constant. -/
def truth (b : Bool) : Expr := .literal (.bool b)

/-- The default of a field in an arm: its discriminator has the value of the arm. -/
def armDefault (key : String) (variant : Variant) (field : Field) : Option Expr :=
  if field.name = key then some (truth variant.value) else none

/-- A model without arms in the style of unions, with its fields. -/
def dataClassOf (config : Config) (model : Model) (fields : List Part) : ClassDef where
  name := model.name
  decorators := decorators config true
  parts := documented model.description ++ fields

/-- A model without arms in the style of unions. -/
def dataClass (config : Config) (model : Model) : Outcome ClassDef := do
  return dataClassOf config model (← model.fields.mapM fun field => fieldPart config field)

/-- Reads the class of an arm by the value of the discriminator, which may be missing if there is an
arm for that. -/
def dispatch (model : Model) (key : String) : Part :=
  let cases : Expr := .dict (model.arms.map fun v => (truth v.value, .name (model.armClass v)))
  let value : Expr :=
    match model.defaultArm? with
    | some arm => method data "get" [quoted key, truth arm.value]
    | none => .subscript data (quoted key)
  reader model.name
    [.assign "variants" cases,
      .ret (method (.subscript (.name "variants") value) "from_dict" [data])]

/-- The abstract class of a union, with the shared fields. -/
def unionBaseOf (config : Config) (model : Model) (key : String) (fields : List Part) :
    ClassDef where
  name := model.name
  bases := ["ABC"]
  decorators := decorators config false
  parts := documented model.description ++ fields ++
    if config.serialization.isOn then [dispatch model key] else []

/-- The abstract class of a union. -/
def unionBase (config : Config) (model : Model) (key : String) : Outcome ClassDef := do
  return unionBaseOf config model key (← model.fields.mapM fun field => fieldPart config field)

/-- The class of an arm, with its fields. -/
def armClassOf (config : Config) (model : Model) (variant : Variant) (fields : List Part) :
    ClassDef where
  name := model.armClass variant
  bases := [model.name]
  decorators := decorators config true
  parts := fields

/-- The class of an arm. -/
def armClass (config : Config) (model : Model) (key : String) (variant : Variant) :
    Outcome ClassDef := do
  return armClassOf config model variant
    (← variant.fields.mapM fun field => fieldPart config field (armDefault key variant field))

/-- The classes of a union. -/
def unionClasses (config : Config) (model : Model) : Outcome (List ClassDef) := do
  let key ← model.checkUnion
  let base ← unionBase config model key
  let arms ← model.arms.mapM (armClass config model key)
  return base :: arms

/-! ## The plain style -/

/-- Where a field is read from: a field that may be null may be missing. -/
def sourceOf (field : Field) : Expr :=
  if field.nullable then method data "get" [quoted field.name]
  else .subscript data (quoted field.name)

/-- Reads each field from an object. -/
def readFields (model : Model) (fields : List Field) : Part :=
  reader model.name
    [.ret (.call (.name "cls") []
      (fields.map fun f => (attributeName f.name, cast f.type f.nullable (sourceOf f))))]

/-- Writes each field to an object. -/
def writeFields (fields : List Field) : Part :=
  .function {
    name := "to_dict"
    parameters := [("self", none)]
    returns := anyObject
    body :=
      [.ret (.dict (fields.map fun f =>
        (quoted f.name, dump f.type f.nullable (.attribute (.name "self") (attributeName f.name)))))] }

/-- A model as a plain class, with its fields. -/
def plainClassOf (config : Config) (model : Model) (fields : List Part) : ClassDef where
  name := model.name
  decorators := decorators config false
  parts := documented model.description ++ fields ++
    if config.serialization.isOn then [readFields model model.flattened, writeFields model.flattened]
    else []

/-- A model as a plain class; a union as one record. -/
def plainClass (config : Config) (model : Model) : Outcome ClassDef := do
  return plainClassOf config model (← model.flattened.mapM fun field => fieldPart config field)

/-- The classes of a model. -/
def classesOf (config : Config) (model : Model) : Outcome (List ClassDef) :=
  if !config.unions.isOn then do return [← plainClass config model]
  else if model.isUnion then unionClasses config model
  else do return [← dataClass config model]

/-- The helper of classes that a library reads and writes. -/
def libraryHelpers (config : Config) : List Helper :=
  if config.serialization.isOn then [.dataclassJson] else []

/-- The helper of functions that read and write objects. -/
def objectHelpers (config : Config) : List Helper := if config.serialization.isOn then [.any] else []

/-- The helper of functions that read fields with some types. -/
def castHelpers (config : Config) (fields : List Field) : List Helper :=
  if config.serialization.isOn && fields.any (castTakes ·.type) then [.cast] else []

/-- The helpers that the classes of a model ask for. -/
def modelHelpers (config : Config) (model : Model) : List Helper :=
  if !config.unions.isOn then
    model.flattened.flatMap (fieldHelpers config) ++ objectHelpers config ++
      castHelpers config model.flattened
  else if model.isUnion then
    .abc :: model.allFields.flatMap (fieldHelpers config) ++ objectHelpers config ++
      libraryHelpers config
  else model.fields.flatMap (fieldHelpers config) ++ libraryHelpers config

/-! ## Units -/

/-- The helpers that every unit imports. -/
def commonHelpers (config : Config) : List Helper :=
  (if config.postponed.isOn then [.annotations] else []) ++ [.dataclass]

/-- The helpers that a unit imports. -/
def unitHelpers (config : Config) (models : List Model) : List Helper :=
  commonHelpers config ++ models.flatMap (modelHelpers config)

/-- The imports of other models from the units beside this one. -/
def modelImports (config : Config) (names : List String) : Outcome (List Import) :=
  names.mapM fun name => do
    let stem ← config.stem name
    return { level := 1, module := stem, names := [name] }

/-- A unit as a module: the imports of helpers in their groups, the classes, and the imports of other
models, which stand at the end if annotations are not evaluated. -/
structure Module where
  comment : List String
  helpers : List (List Import)
  classes : List ClassDef
  siblings : List Import
  isPostponed : Bool

/-- The module of classes that ask for helpers. -/
def Module.of (config : Config) (helpers : List Helper) (classes : List ClassDef)
    (siblings : List Import) : Module where
  comment := if config.comment.isOn then ["# GENERATED CODE - DO NOT MODIFY MANUALLY"] else []
  helpers := Helper.imports helpers
  classes
  siblings
  isPostponed := config.postponed.isOn

/-- What the module of models holds; models at hand are not imported. -/
def Module.ofModels (config : Config) (models : List Model) (atHand : List String) :
    Outcome Module := do
  let classes := (← models.mapM (classesOf config)).flatten
  let siblings ← modelImports config (Model.imported models atHand)
  return .of config (unitHelpers config models) classes siblings

/-- Imports, one a line. -/
def importLines (imports : List Import) : String := "\n".intercalate (imports.map (·.written))

/-- A module as it is written. -/
def Module.written (unit : Module) : String :=
  let atEnd := unit.isPostponed && !unit.siblings.isEmpty
  let groups := unit.helpers ++ if atEnd || unit.siblings.isEmpty then [] else [unit.siblings]
  let front := "\n\n".intercalate (unit.comment ++ groups.map importLines)
  let body := unit.classes.map (·.written) ++ if atEnd then [importLines unit.siblings] else []
  "\n\n\n".intercalate (front :: body) ++ "\n"

end SchemaCodegen.Python
