import SchemaCodegen.Settings.Config

/-!
# Nodes of a document

A node is the schema of one property or of one model. `FieldType.ofNode` reads the type of a
property: a reference, one of the simple types, or an array, whose items are nodes again.
`Model.ofNode` reads a model: a field for each property, those of an explicit order first.
-/

namespace SchemaCodegen

open Json (Value Members)

/-- What follows the last slash of a text. -/
def lastPart (path : String) : String :=
  String.ofList (path.toList.reverse.takeWhile (· ≠ '/')).reverse

namespace FieldType

/-- The kinds of the simple types. -/
def simple? : String → Option Kind
  | "integer" => some .integer
  | "number" => some .float
  | "boolean" => some .boolean
  | "object" => some .map
  | _ => none

/-- The type of a node that is neither a reference nor an array. -/
def ofKeywords (members : Members) : FieldType :=
  match Entries.get? members "type" with
  | some (.str "string") =>
    .of (if Entries.get? members "format" = some (.str "date-time") then .dateTime else .string)
  | some (.str name) => .of ((simple? name).getD .unknown)
  | _ => .of .unknown

/-- Whether the members describe an array: they hold no reference and say so. -/
def isArray (members : Members) : Bool :=
  !Entries.has members "$ref" && Entries.get? members "type" == some (.str "array")

/-- The class that a reference points at: the last part of its path as a class name. -/
def ofReference (naming : Setting Naming) (reference : Value) : Outcome FieldType := do
  let conventions ← naming.conventions
  return .reference (← conventions.className (lastPart reference.display))

mutual
/-- The type of a property, which stands at the given path. -/
def ofNode (naming : Setting Naming) (path : String) : Value → Outcome FieldType
  | .obj members =>
    if isArray members then
      match ofItems naming path members with
      | .ok item => .ok (.array item)
      | .error e => .error e
    else
      match Entries.get? members "$ref" with
      | some reference => ofReference naming reference
      | none => .ok (ofKeywords members)
  | _ => .ok (.of .unknown)
/-- The type of the items of an array, which must be said. -/
def ofItems (naming : Setting Naming) (path : String) : List (String × Value) → Outcome FieldType
  | [] => .error (.missingKeyword "items" path)
  | (key, value) :: rest =>
    if key = "items" then
      match value with
      | .null => .error (.missingKeyword "items" path)
      | value => ofNode naming (path ++ "/items") value
    else ofItems naming path rest
end

end FieldType

/-! ## Models -/

namespace Node

/-- The text at a key, if there is one. -/
def text? (members : Members) (key : String) : Option String :=
  (Entries.get? members key).bind Value.text?

/-- The members of the object at a key; anything else has none. -/
def object (members : Members) (key : String) : Members :=
  match Entries.get? members key with
  | some (.obj found) => found
  | _ => []

/-- The properties that a node requires: the texts of its list. -/
def required (members : Members) : List String :=
  match Entries.get? members "required" with
  | some (.arr items) => items.filterMap Value.text?
  | _ => []

/-- The texts of an explicit order, in which arrays and objects cannot stand. -/
def listed : List Value → Outcome (List String)
  | [] => .ok []
  | value :: rest =>
    if value.isCompound then .error .wrongType
    else
      match listed rest with
      | .ok names => .ok (value.text?.toList ++ names)
      | .error e => .error e

/-- The explicit order of a node, under the keyword of the conventions. -/
def order (conventions : Naming) (members : Members) : Outcome (List String) := do
  match ← conventions.orderKeyword with
  | none => return []
  | some key =>
    match Entries.get? members key with
    | some (.arr items) => listed items
    | _ => return []

/-- The properties in the order of their fields: those of an explicit order that exist, then the
others as declared. -/
def propertyNames (conventions : Naming) (members : Members) : Outcome (List String) := do
  let properties := object members "properties"
  let explicit ← order conventions members
  return Model.distinct (explicit.filter properties.has ++ properties.keys)

/-- The field of a property. -/
def field (naming : Setting Naming) (path : String) (required : List String) (name : String)
    (node : Value) : Outcome Field := do
  let type ← FieldType.ofNode naming s!"{path}/properties/{name}" node
  return {
    name, type
    nullable := !required.contains name
    description := (node.member? "description").bind Value.text? }

/-- The fields of properties, in order. -/
def fields (naming : Setting Naming) (path : String) (members : Members) :
    List String → Outcome (List Field)
  | [] => .ok []
  | name :: rest => do
    let node := (Entries.get? (object members "properties") name).getD .null
    let first ← field naming path (required members) name node
    return first :: (← fields naming path members rest)

end Node

namespace Model

/-- The model of a node. Its class name is formed from `name`, paths begin with `label`, and a
description from elsewhere comes before the node's own. -/
def ofNode (naming : Setting Naming) (name label : String) (members : Members)
    (description : Option String := none) : Outcome Model := do
  let className ← (← naming.namer.conventions).className name
  let names ← Node.propertyNames (← naming.conventions) members
  let fields ← Node.fields naming.namer s!"#/{label}" members names
  return {
    name := className, fields
    description := description <|> Node.text? members "description" }

end Model

end SchemaCodegen
