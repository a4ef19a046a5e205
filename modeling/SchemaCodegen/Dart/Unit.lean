import SchemaCodegen.Dart.Declaration
import SchemaCodegen.Dart.Expression
import SchemaCodegen.Dart.Identifier
import SchemaCodegen.Schema.Union
import SchemaCodegen.Settings.Config

/-!
# Dart units

How models are rendered in Dart. In the style of unions each model is a class with immutable
fields whose implementation is generated elsewhere, and a union has one constructor for each arm. In
the plain style a model is a class with a member for each field, and reads and writes JSON itself.
`Library.ofModels` says what a unit holds, and `Library.written` is its text.
-/

namespace SchemaCodegen.Dart

/-- A truth value as it is written. -/
def truth (b : Bool) : String := if b then "true" else "false"

/-- A name with a mark in front, for what is generated elsewhere. -/
def generated (name : String) : String := "_$" ++ name

/-- The annotation that keeps the JSON key of a field whose identifier differs from it. -/
def jsonKey (config : Config) (field : Field) : List Annotation :=
  if identifier field.name = field.name || !config.serialization.isOn then []
  else [{ name := "JsonKey", arguments := some ["name: " ++ literal field.name] }]

/-- The parameter of a field. -/
def parameter (config : Config) (field : Field) : Parameter where
  name := identifier field.name
  type := some (nullableType field.type field.nullable)
  required := !field.nullable
  annotations := jsonKey config field
  comment := commentLines field.description

/-- The parameter of the discriminator, with the value of its arm by default. -/
def discriminator (config : Config) (value : Bool) (field : Field) : Parameter where
  name := identifier field.name
  type := some (typeText field.type)
  annotations :=
    jsonKey config field ++ [{ name := "Default", arguments := some [truth value] }]
  comment := commentLines field.description

/-- The method that reads JSON by generated code. -/
def readByGenerated (model : Model) : List String :=
  ["factory " ++ model.name ++ ".fromJson(Map<String, dynamic> json) => " ++
    generated model.name ++ "FromJson(json);"]

/-- Methods, if JSON is read and written at all. -/
def methods (config : Config) (all : List (List String)) : List (List String) :=
  if config.serialization.isOn then all else []

/-- A model without arms in the style of unions. -/
def dataClass (config : Config) (model : Model) : Class where
  name := model.name
  comment := commentLines model.description
  annotations := [{ name := "freezed" }]
  mixins := [generated model.name]
  constructors :=
    [{ className := model.name, isConst := true, isFactory := true
       parameters := model.fields.map (parameter config)
       redirect := some ("_" ++ model.name) }]
  methods := methods config [readByGenerated model]

/-- The parameters of an arm: the shared fields that it does not declare itself, then its own. -/
def armParameters (config : Config) (model : Model) (key : String) (variant : Variant) :
    List Parameter :=
  (model.fields.filter (!variant.has ·.name)).map (parameter config) ++
    variant.fields.map fun field =>
      if field.name = key then discriminator config variant.value field
      else parameter config field

/-- The constructor of an arm. -/
def armConstructor (config : Config) (model : Model) (key : String) (variant : Variant) :
    Constructor where
  className := model.name
  name := variant.constructorName
  isConst := true
  isFactory := true
  parameters := armParameters config model key variant
  redirect := some ("_" ++ model.armClass variant)
  annotations :=
    [{ name := "FreezedUnionValue", arguments := some [literal (truth variant.value)] }]

/-- A union as one class with a constructor for each arm. -/
def unionClass (config : Config) (model : Model) : Outcome Class := do
  let key ← model.checkUnion
  let fallback := match model.defaultArm? with
    | none => []
    | some variant => ["fallbackUnion: " ++ literal variant.constructorName]
  return {
    name := model.name
    comment := commentLines model.description
    annotations :=
      [{ name := "Freezed", arguments := some (("unionKey: " ++ literal key) :: fallback) }]
    mixins := [generated model.name]
    constructors :=
      { className := model.name, name := "_", isConst := true } ::
        model.arms.map (armConstructor config model key)
    methods := methods config [readByGenerated model] }

/-! ## The plain style -/

/-- The method that reads each field from decoded JSON. -/
def readFields (model : Model) (fields : List Field) : List String :=
  let read (field : Field) : String :=
    let source : Expr := .source ("json[" ++ literal field.name ++ "]")
    "    " ++ identifier field.name ++ ": " ++ (cast field.type field.nullable source).text ++ ","
  ["factory " ++ model.name ++ ".fromJson(Map<String, dynamic> json) \x7b"] ++
    (if fields.isEmpty then ["  return " ++ model.name ++ "();"]
    else ["  return " ++ model.name ++ "("] ++ fields.map read ++ ["  );"]) ++
    ["\x7d"]

/-- The method that writes each field for JSON. -/
def writeFields (fields : List Field) : List String :=
  let write (field : Field) : String :=
    let value : Expr := .source (identifier field.name)
    "    " ++ literal field.name ++ ": " ++ (dump field.type field.nullable value).text ++ ","
  ["Map<String, dynamic> toJson() \x7b", "  return \x7b"] ++ fields.map write ++
    ["  \x7d;", "\x7d"]

/-- A model as a plain class; a union as one record. -/
def plainClass (config : Config) (model : Model) : Class :=
  let fields := model.flattened
  { name := model.name
    comment := commentLines model.description
    members := fields.map fun field =>
      { name := identifier field.name
        type := nullableType field.type field.nullable
        comment := commentLines field.description }
    constructors :=
      [{ className := model.name
         parameters := fields.map fun field =>
          { name := identifier field.name, type := none, required := !field.nullable } }]
    methods := methods config [readFields model fields, writeFields fields] }

/-- The class of a model. -/
def classOf (config : Config) (model : Model) : Outcome Class :=
  if !config.unions.isOn then .ok (plainClass config model)
  else if model.isUnion then unionClass config model
  else .ok (dataClass config model)

/-! ## Units -/

/-- The packages that a unit imports. -/
def packages (config : Config) : List String :=
  if config.unions.isOn then
    ["package:freezed_annotation/freezed_annotation.dart"] ++
      if config.serialization.isOn then ["package:json_annotation/json_annotation.dart"] else []
  else []

/-- The generated files that are part of a unit. -/
def parts (config : Config) (fileStem : String) : List String :=
  if config.unions.isOn then
    [fileStem ++ ".freezed.dart"] ++
      if config.serialization.isOn then [fileStem ++ ".g.dart"] else []
  else []

/-- The import of another model from the file of its unit. -/
structure ModelImport where
  model : String
  file : String

/-- The imports of other models. -/
def modelImports (config : Config) (names : List String) : Outcome (List ModelImport) :=
  names.mapM fun name => do
    let stem ← config.stem name
    return { model := name, file := "../" ++ stem ++ "/" ++ stem ++ ".dart" }

/-- A unit as a library. -/
structure Library where
  comment : List String
  packages : List String
  imports : List ModelImport
  parts : List String
  classes : List Class

/-- The library of models in the file of the given stem; models at hand are not imported. -/
def Library.ofModels (config : Config) (models : List Model) (fileStem : String)
    (atHand : List String) : Outcome Library := do
  let imports ← modelImports config (Model.imported models atHand)
  let classes ← models.mapM (classOf config)
  return {
    comment := if config.comment.isOn then ["// GENERATED CODE - DO NOT MODIFY MANUALLY"] else []
    packages := Dart.packages config
    imports
    parts := Dart.parts config fileStem
    classes }

/-- The sections before the classes: a comment, imports and parts. Empty sections are left out. -/
def Library.sections (library : Library) : List (List String) :=
  let directive (word uri : String) : String := word ++ " " ++ literal uri ++ ";"
  [library.comment,
    library.packages.map (directive "import"),
    library.imports.map (directive "import" ·.file),
    library.parts.map (directive "part")].filter (!·.isEmpty)

/-- A library as it is written. -/
def Library.written (library : Library) : String :=
  let front := library.sections.flatMap fun lines => lines ++ [""]
  String.join (front.map (· ++ "\n")) ++
    "\n\n".intercalate (library.classes.map fun cls => joinLines cls.lines) ++ "\n"

end SchemaCodegen.Dart
