import SchemaCodegen.Backend
import SchemaCodegen.Document.Container
import SchemaCodegen.Formatter
import SchemaCodegen.Path
import SchemaCodegen.Schema.References
import SchemaCodegen.Schema.Rename

/-!
# Rendering

A `Generation` is a checked schema ready to be rendered: its models have their final names, and their
references have been checked if that was asked for. It is rendered as one unit, or as one unit for
each model; then a model that cannot be rendered does not keep the others from being so.
-/

namespace SchemaCodegen

open Json (Value)

/-- The ending of file names. -/
def Language.extension : Language → String
  | .dart => "dart"
  | .python => "py"

/-- A schema ready to be rendered. -/
structure Generation where
  /-- The name of the combined unit. -/
  name : String
  config : Config
  schema : Schema
  /-- The options of the formatting tool, if units are handed to it. -/
  formatting : Option Formatting

namespace Generation

/-- Prepares a schema: renames its models, and checks its references if that is asked for. -/
def ofSchema (name : String) (config : Config) (schema : Schema) : Outcome Generation := do
  let schema ← schema.normalize config.naming
  if config.checkReferences.isOn then schema.check
  let options ← config.formatting.options
  let isFormatted ← config.isFormatted
  return { name, config, schema, formatting := if isFormatted then some options else none }

/-- Prepares the schema of a document. -/
def ofDocument (name : String) (config : Config) (document : Value) : Outcome Generation := do
  ofSchema name config (← Schema.ofDocument config document)

/-- Units by the stems of their files, and models that could not be rendered with the cause. -/
structure Result where
  files : Entries String := []
  faults : Entries Fault := []

/-- Hands a unit to the formatting tool. -/
def formatted (generation : Generation) (tool : Option Formatter) (code : String) :
    Outcome String :=
  match generation.formatting with
  | none => .ok code
  | some formatting => formatting.apply tool code

/-- All models as one unit before it is formatted. Files that it names have the stem of the output,
if that is given. -/
def combinedUnit (generation : Generation) (output : Option String) : Outcome String :=
  let fileStem := match output with
    | some output => (Path.ofString output).stem
    | none => generation.name
  renderUnit generation.config generation.schema.models fileStem generation.schema.names

/-- All models as one unit. -/
def combined (generation : Generation) (tool : Option Formatter) (output : Option String) :
    Outcome Result := do
  let code ← generation.formatted tool (← generation.combinedUnit output)
  return { files := [(generation.name, code)] }

/-- The unit of one model: the stem of its file and its text, or why there is none. -/
structure ModelUnit where
  model : String
  stem : String
  code : Outcome String

/-- The text of the unit of one model. Files that it names have the stem of its output, if there is a
template for that. -/
def modelCode (generation : Generation) (tool : Option Formatter) (output : Option String)
    (model : Model) (stem : String) : Outcome String := do
  let fileStem := match output with
    | some template => (Template.path template stem).stem
    | none => stem
  generation.formatted tool (← renderUnit generation.config [model] fileStem [model.name])

/-- Renders one model on its own. Only a fault of the model itself is part of the result. -/
def modelUnit (generation : Generation) (tool : Option Formatter) (output : Option String)
    (model : Model) : Outcome ModelUnit := do
  let stem ← generation.config.stem model.name
  match generation.modelCode tool output model stem with
  | .ok code => return ⟨model.name, stem, .ok code⟩
  | .error fault =>
    if fault.isReported then return ⟨model.name, stem, .error fault⟩ else .error fault

/-- Adds the unit of a model to a result. -/
def Result.add (result : Result) (unit : ModelUnit) : Result :=
  match unit.code with
  | .ok code => { result with files := Entries.put result.files unit.stem code }
  | .error fault => { result with faults := Entries.put result.faults unit.model fault }

/-- One unit for each model. -/
def split (generation : Generation) (tool : Option Formatter) (output : Option String) :
    Outcome Result := do
  let units ← generation.schema.models.mapM (generation.modelUnit tool output)
  return units.foldl Result.add {}

/-- Renders in one unit or in one for each model. -/
def render (generation : Generation) (tool : Option Formatter) (isSplit : Bool)
    (output : Option String) : Outcome Result :=
  if isSplit then generation.split tool output else generation.combined tool output

/-! ## What is handed to the tool, and remarks -/

/-- The results up to the first that is none. -/
def untilFailure {α : Type} : List (Outcome α) → List α
  | .ok a :: rest => a :: untilFailure rest
  | _ => []

/-- The units of models, up to the first fault that is not a model's own. -/
def modelUnits (generation : Generation) (tool : Option Formatter) (output : Option String) :
    List ModelUnit :=
  untilFailure (generation.schema.models.map (generation.modelUnit tool output))

/-- How many units are handed to the tool. -/
def handedOver (generation : Generation) (tool : Option Formatter) (isSplit : Bool)
    (output : Option String) : Nat :=
  if generation.formatting.isNone then 0
  else if isSplit then
    ((generation.modelUnits tool output).filter (·.code.isOk)).length
  else if (generation.combined tool output).isOk then 1 else 0

/-- What the tool is asked for with each unit that is handed to it. -/
def requests (generation : Generation) (tool : Formatter) (isSplit : Bool)
    (output : Option String) : List FormatRequest :=
  match generation.formatting with
  | none => []
  | some formatting =>
    match formatting.request tool.versions with
    | .ok request => List.replicate (generation.handedOver (some tool) isSplit output) request
    | .error _ => []

/-- That the tool is missing, where it is first asked for. -/
def missingTool : Remark :=
  ⟨.warning, .formatting, "black is not installed, python output is left unformatted"⟩

/-- What is noted of the units of models when there is no tool. -/
def unitRemarks (asks : Bool) : List ModelUnit → List Remark
  | [] => []
  | unit :: rest =>
    match unit.code with
    | .ok _ => (if asks then [missingTool] else []) ++ unitRemarks false rest
    | .error fault =>
      ⟨.error, .generating, s!"Failed to render {unit.model}: {fault.message}"⟩ ::
        unitRemarks asks rest

/-- What is noted while a schema is rendered and there is no tool. -/
def remarks (generation : Generation) (isSplit : Bool) (output : Option String) : List Remark :=
  if isSplit then
    unitRemarks generation.formatting.isSome (generation.modelUnits none output)
  else if 0 < generation.handedOver none isSplit output then [missingTool] else []

/-- What is noted while a schema is prepared. -/
def schemaRemarks (config : Config) (schema : Schema) : List Remark :=
  match schema.newNames config.naming, schema.normalize config.naming with
  | .ok newNames, .ok schema =>
    let names := ", ".intercalate schema.names
    Schema.renameRemarks newNames ++
      [⟨.debug, .generating, s!"Parsed {schema.models.length} models: {names}"⟩] ++
      if config.checkReferences.isOn then schema.referenceRemarks else []
  | _, _ => []

end Generation

end SchemaCodegen
