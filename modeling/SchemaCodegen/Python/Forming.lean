import SchemaCodegen.Python.Unit

/-!
# Forming units

A unit is formed class by class. On the way the helpers that the classes ask for are noted, and what
was noted stays so when a class cannot be formed. Only a new unit begins with new notes: the type of
a field can be asked for between units and adds to the notes of the last one.
-/

namespace SchemaCodegen.Python

/-- What forms a result or fails, and notes helpers in either case. -/
abbrev Forming := ExceptT Fault (StateM (List Helper))

namespace Forming

/-- A result that notes nothing. -/
def of {α : Type} (result : Outcome α) : Forming α := ExceptT.mk (pure result)

/-- Helpers with those among others that are new. -/
def noting (noted helpers : List Helper) : List Helper :=
  noted ++ helpers.filter (!noted.contains ·)

/-- Notes helpers. -/
def note (helpers : List Helper) : Forming PUnit := modify (noting · helpers)

/-- A field of a class. What its value asks for is noted once its annotation is read. -/
def field (config : Config) (field : Field) (default : Option Expr := none) : Forming Part := do
  note (Helper.ofType field.type)
  let type ← of (Expr.read (nullableType field.type field.nullable))
  note (valueHelpers config field)
  return fieldOf config field default type

/-- A model without arms in the style of unions. -/
def dataClass (config : Config) (model : Model) : Forming ClassDef := do
  let fields ← model.fields.mapM fun f => field config f
  note (libraryHelpers config)
  return dataClassOf config model fields

/-- The abstract class of a union. -/
def unionBase (config : Config) (model : Model) (key : String) : Forming ClassDef := do
  note [.abc]
  let fields ← model.fields.mapM fun f => field config f
  note (objectHelpers config)
  return unionBaseOf config model key fields

/-- The class of an arm. -/
def armClass (config : Config) (model : Model) (key : String) (variant : Variant) :
    Forming ClassDef := do
  let fields ← variant.fields.mapM fun f => field config f (armDefault key variant f)
  note (libraryHelpers config)
  return armClassOf config model variant fields

/-- The classes of a union. -/
def unionClasses (config : Config) (model : Model) : Forming (List ClassDef) := do
  let key ← of model.checkUnion
  let base ← unionBase config model key
  let arms ← model.arms.mapM (armClass config model key)
  return base :: arms

/-- A model as a plain class. -/
def plainClass (config : Config) (model : Model) : Forming ClassDef := do
  let fields ← model.flattened.mapM fun f => field config f
  note (objectHelpers config)
  note (castHelpers config model.flattened)
  return plainClassOf config model fields

/-- The classes of a model. -/
def classesOf (config : Config) (model : Model) : Forming (List ClassDef) :=
  if !config.unions.isOn then do return [← plainClass config model]
  else if model.isUnion then unionClasses config model
  else do return [← dataClass config model]

/-- The module of models; it begins with new notes. -/
def module (config : Config) (models : List Model) (atHand : List String) : Forming Module := do
  set (commonHelpers config)
  let classes := (← models.mapM (classesOf config)).flatten
  let siblings ← of (modelImports config (Model.imported models atHand))
  return .of config (← get) classes siblings

end Forming

end SchemaCodegen.Python
