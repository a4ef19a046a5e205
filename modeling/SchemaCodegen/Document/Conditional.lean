import SchemaCodegen.Document.Node
import SchemaCodegen.Remark

/-!
# Conditional schemas

A document with `if`, `then` and `else` describes a union of two variants, told apart by one
property that the condition compares with a truth value. It is split into three models: a base with
the shared properties, and for each branch a model with the properties that the branch requires.
A property that both branches require goes to the first.
-/

namespace SchemaCodegen

open Json (Value Members)

namespace Conditional

/-- Whether a document is conditional. -/
def isConditional (document : Members) : Bool :=
  ["if", "then", "else"].all document.has

/-- The members of the object that the condition holds under `properties`. -/
def conditions (document : Members) : Members :=
  Node.object (Node.object document "if") "properties"

/-- The property that tells the variants apart. -/
def discriminator (policy : Policy) (document : Members) : Outcome String :=
  match (conditions document).keys with
  | [] => .error .noDiscriminator
  | [key] => .ok key
  | key :: more =>
    match policy with
    | .first => .ok key
    | .refuse => .error (.severalDiscriminators (key :: more))

/-- The value of the discriminator in the first variant. -/
def firstValue (document : Members) (key : String) : Outcome Bool :=
  let found := ((Entries.get? (conditions document) key).bind (·.member? "const")).getD .null
  match found with
  | .bool b => .ok b
  | found => .error (.discriminatorValue key found)

/-- The name of a truth value. -/
def caseName (b : Bool) : String := if b then "true" else "false"

/-- A title if it is set, else the default; neither needs to be a text. -/
def titleOr (document : Members) (default : Setting String) : Value :=
  match Entries.get? document "title" with
  | some title => if title.isSet then title else default.toJson .str
  | none => default.toJson .str

/-- The text that a class name is formed from. What is not set counts as empty. -/
def nameText : Value → Outcome String
  | .str s => .ok s
  | value => if value.isSet then .error .noSuchPart else .ok ""

/-- The text that a name is joined to. -/
def joined (front : String) : Value → Outcome String
  | .str s => .ok (front ++ s)
  | _ => .error .wrongType

/-- The names that a split gives: the discriminator with the value of the first variant, the names
as written, and the class names. -/
structure Names where
  key : String
  value : Bool
  base : Value
  first : String
  second : String
  baseClass : String
  firstClass : String
  secondClass : String

/-- Forms the names of a split. -/
def names (config : Config) (document : Members) : Outcome Names := do
  let key ← discriminator config.policy document
  let conventions ← config.naming.conventions
  let front := Words.pascalCase (Naming.dropFront (← conventions.cutLength) key)
  let base := titleOr document conventions.baseName
  let baseClass ← conventions.className (← nameText base)
  let first ← joined front base
  let firstClass ← conventions.className first
  let second ← joined (← conventions.otherwise.get) base
  let secondClass ← conventions.className second
  let value ← firstValue document key
  return { key, value, base, first, second, baseClass, firstClass, secondClass }

/-- Properties that are still to be shared out, and those of them that are required. -/
structure Pool where
  properties : Members
  required : List String

/-- The properties that a branch requires, as a node of its own, and what is left in the pool. -/
def Pool.take (pool : Pool) (branch : List String) : Members × Pool :=
  let taken : Members := pool.properties.filter fun (name, _) => branch.contains name
  let node : Members :=
    [("properties", .obj taken), ("required", .arr (taken.keys.map .str))]
  (node,
    { properties := pool.properties.filter fun (name, _) => !branch.contains name
      required := taken.keys.foldl List.erase pool.required })

/-- The nodes of base, first and second variant. -/
def shares (document : Members) : Members × Members × Members :=
  let pool : Pool := ⟨Node.object document "properties", Node.required document⟩
  let (first, pool) := pool.take (Node.required (Node.object document "then"))
  let (second, pool) := pool.take (Node.required (Node.object document "else"))
  let base := (document.put "properties" (.obj pool.properties)).put "required"
    (.arr (pool.required.map .str))
  (base, first, second)

/-- Why a conditional schema has no models. -/
inductive Gap where
  /-- There are no properties or there is no title. -/
  | noTitle
  /-- There is no list of required properties and one is needed. -/
  | noRequired
  deriving DecidableEq

/-- What a conditional schema lacks, if anything. -/
def gap? (config : Config) (document : Members) : Option Gap :=
  if !document.has "properties" || !document.has "title" then some .noTitle
  else if !document.has "required" && config.needsRequired.isOn then some .noRequired
  else none

/-- The three models of a split. -/
def models (config : Config) (document : Members) (names : Names) : Outcome (List Model) := do
  let (baseNode, firstNode, secondNode) := shares document
  let base ← Model.ofNode config.naming (← nameText names.base) names.base.display baseNode
  let first ← Model.ofNode config.naming names.first names.first firstNode
  let second ← Model.ofNode config.naming names.second names.second secondNode
  return [
    { base with
      isAbstract := true
      unionKey := some names.key
      unionCases := some
        [(caseName names.value, names.firstClass), (caseName !names.value, names.secondClass)] },
    { first with parent := some names.baseClass },
    { second with parent := some names.baseClass }]

/-- The models of a conditional schema: three, or none if something is lacking. -/
def split (config : Config) (document : Members) : Outcome (List Model) := do
  let names ← names config document
  match gap? config document with
  | some _ => return []
  | none => models config document names

/-! ## Remarks -/

/-- That several properties could tell the variants apart. -/
def choiceRemarks (config : Config) (document : Members) : List Remark :=
  match (conditions document).keys, config.policy with
  | key :: other :: more, .first =>
    let all := ", ".intercalate (key :: other :: more)
    [⟨.warning, .splitting, s!"Several discriminator properties ({all}), using {key}"⟩]
  | _, _ => []

/-- What is noted of a split. -/
def remarks (config : Config) (document : Members) : List Remark :=
  choiceRemarks config document ++
    match names config document with
    | .error _ => []
    | .ok names =>
      match gap? config document with
      | some .noTitle =>
        [⟨.debug, .splitting,
          "Conditional schema without properties or title, no models produced"⟩]
      | some .noRequired =>
        [⟨.warning, .splitting,
          s!"Conditional schema {names.base.display} has no required list, no models produced"⟩]
      | none =>
        match models config document names with
        | .error _ => []
        | .ok _ =>
          [⟨.debug, .splitting, s!"Split {names.baseClass} into {names.firstClass} and {names.secondClass} on {names.key}"⟩]

end Conditional

end SchemaCodegen
