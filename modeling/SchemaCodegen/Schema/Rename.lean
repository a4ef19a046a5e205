import SchemaCodegen.Settings.Config
import SchemaCodegen.Remark

/-!
# Renaming models

A model whose class name has the reserved ending is renamed, and with it every reference, parent and
union case that points at the name. All names are replaced at once by one map, so a new name is not
renamed again.
-/

namespace SchemaCodegen

/-- New names for old ones. -/
abbrev Renaming := Entries String

namespace Renaming

/-- The new name of a name; names without one stay. -/
def apply (newNames : Renaming) (name : String) : String := (newNames.get? name).getD name

/-- The new names of those models that have the reserved ending. -/
def ofModels (naming : Naming) : List Model → Outcome Renaming
  | [] => .ok []
  | model :: rest => do
    let newNames ← ofModels naming rest
    if ← naming.needsNewEnding model.name then
      let new ← naming.withNewEnding model.name
      return (model.name, new) :: newNames.filter (·.1 ≠ model.name)
    else return newNames

end Renaming

/-- A type with its references renamed, in arrays at any depth. -/
def FieldType.rename (new : String → String) : FieldType → FieldType
  | .plain .reference target => .plain .reference (target.map new)
  | .plain kind target => .plain kind target
  | .nested .reference target item => .nested .reference (target.map new) item
  | .nested .array target item => .nested .array target (rename new item)
  | .nested kind target item => .nested kind target item

/-- A field with the references of its type renamed. -/
def Field.rename (new : String → String) (field : Field) : Field :=
  { field with type := field.type.rename new }

/-- An arm with the references of its fields renamed. -/
def Variant.rename (new : String → String) (variant : Variant) : Variant :=
  { variant with fields := variant.fields.map (·.rename new) }

/-- A model with its own name and every name in it renamed. -/
def Model.rename (new : String → String) (model : Model) : Model :=
  { model with
    name := new model.name
    fields := model.fields.map (·.rename new)
    parent := model.parent.map new
    unionCases := model.unionCases.map (·.mapValues new)
    variants := model.variants.map (·.map (·.rename new)) }

namespace Schema

/-- A schema with every name in it renamed. -/
def rename (new : String → String) (schema : Schema) : Schema :=
  { schema with models := schema.models.map (·.rename new) }

/-- The new names that the conventions ask for. Conventions are looked up for the first model. -/
def newNames (naming : Setting Naming) (schema : Schema) : Outcome Renaming :=
  match schema.models with
  | [] => .ok []
  | models => do Renaming.ofModels (← naming.namer.conventions) models

/-- The schema in which no model has the reserved ending. -/
def normalize (naming : Setting Naming) (schema : Schema) : Outcome Schema := do
  return schema.rename (← schema.newNames naming).apply

/-- What is noted of the models that are renamed. -/
def renameRemarks (newNames : Renaming) : List Remark :=
  newNames.map fun (old, new) => ⟨.debug, .naming, s!"Renaming model {old} -> {new}"⟩

end Schema

end SchemaCodegen
