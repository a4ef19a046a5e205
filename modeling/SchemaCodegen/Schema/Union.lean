import SchemaCodegen.Fault
import SchemaCodegen.Text.Words

/-!
# Unions

What both target languages share of the rendering of models: the names of the arms of a union, when
a union can be rendered, its fields as those of one record, and the models that a unit must import.
-/

namespace SchemaCodegen

/-- The name by which an arm is constructed: its own, or one for its value. -/
def Variant.constructorName (variant : Variant) : String :=
  match variant.name with
  | some name => if name = "" then byValue else Words.camelCase name
  | none => byValue
where
  /-- The name for the value of the arm. -/
  byValue : String := if variant.value then "whenTrue" else "whenFalse"

/-- Whether an arm has a field of a name. -/
def Variant.has (variant : Variant) (name : String) : Bool :=
  variant.fields.any (·.name == name)

namespace Model

/-- The class of an arm. -/
def armClass (model : Model) (variant : Variant) : String :=
  model.name ++ Words.pascalCase variant.constructorName

/-- The arm for values of the discriminator that are not known: the first that is marked so. -/
def defaultArm? (model : Model) : Option Variant := model.arms.find? (·.isDefault)

/-- The discriminator of a union that can be rendered: it is named, there are arms, and each has a
field of that name. -/
def checkUnion (model : Model) : Outcome String :=
  match model.unionKey.filter (· ≠ "") with
  | none => .error (.unrenderable model.name .noKey)
  | some key =>
    if model.arms.isEmpty then .error (.unrenderable model.name .noVariants)
    else
      match model.arms.find? (!·.has key) with
      | some variant =>
        .error (.unrenderable model.name (.variantWithout variant.constructorName key))
      | none => .ok key

/-- A field of an arm as a field of the whole record: nullable if some arm lacks it. -/
def shared (model : Model) (field : Field) : Field :=
  if model.arms.all (·.has field.name) then field
  else { name := field.name, type := field.type, nullable := true, description := field.description }

/-- Fields that are not named among those before them, each as a field of the whole record. -/
def addShared (model : Model) (fields : List Field) : List Field → List Field
  | [] => fields
  | field :: rest =>
    if fields.any (·.name == field.name) then addShared model fields rest
    else addShared model (fields ++ [model.shared field]) rest

/-- The fields of a union as those of one record: its own, then those of the arms, the first of each
name. -/
def flattened (model : Model) : List Field :=
  model.addShared model.fields (model.arms.flatMap (·.fields))

/-- The models that models refer to and that are not at hand, each once. -/
def imported (models : List Model) (atHand : List String) : List String :=
  distinct ((models.flatMap references).filter (!atHand.contains ·))

end Model

end SchemaCodegen
