import SchemaCodegen.Settings.Setting
import SchemaCodegen.Text.Ending
import SchemaCodegen.Text.Words

/-!
# Naming conventions

How class names and file stems are formed from the keys and titles of a schema. A class name is the
text in capitalised words, with a reserved ending replaced; a file stem is a class name in small
words, with the first matching rule on endings applied.
-/

namespace SchemaCodegen

/-- The conventions on names. -/
structure Naming where
  /-- The reserved ending of class names. -/
  ending : Setting String := .typed "Params"
  /-- What stands in place of the reserved ending. -/
  replacement : Setting String := .typed "AdapterParams"
  /-- Endings of file stems with what stands in their place, tried in order. -/
  stemRules : Setting (Entries (Setting String)) :=
    .typed [("_adapter_params", .typed "_adapter"), ("_params", .typed "_adapter")]
  /-- How many characters of a discriminator are left out of the name of its variant. -/
  cut : Setting Int := .typed 2
  /-- How the name of the other variant begins. -/
  otherwise : Setting String := .typed "Default"
  /-- The name of a conditional schema without a title. -/
  baseName : Setting String := .typed "BaseClass"
  /-- The name of a single schema without a title. -/
  rootName : Setting String := .typed "Root"
  /-- The keyword that lists properties in order. -/
  orderKey : Setting String := .typed "propertyOrder"
  deriving DecidableEq

namespace Naming

instance : Inhabited Naming := ⟨{}⟩

/-- Replaces the reserved ending, once, of a class name that has it. -/
def withNewEnding (naming : Naming) (name : String) : Outcome String := do
  let ending ← naming.ending.get
  if Ending.isEndOf ending name then
    return Ending.replaced ending (← naming.replacement.get) name
  else return name

/-- Whether a class name has the reserved ending and not already its replacement. -/
def needsNewEnding (naming : Naming) (name : String) : Outcome Bool := do
  let ending ← naming.ending.get
  if Ending.isEndOf ending name then
    return !Ending.isEndOf (← naming.replacement.get) name
  else return false

/-- The class name of a key or a title. -/
def className (naming : Naming) (raw : String) : Outcome String :=
  naming.withNewEnding (Words.pascalCase raw)

/-- Applies the first rule whose ending the stem has. -/
def applyRules (rules : Entries (Setting String)) (stem : String) : Outcome String :=
  match rules with
  | [] => .ok stem
  | (ending, replacement) :: rest =>
    if Ending.isEndOf ending stem then
      match replacement.get with
      | .ok replacement => .ok (Ending.replaced ending replacement stem)
      | .error e => .error e
    else applyRules rest stem

/-- The file stem of a class. Rules that are no object have no entries to try. -/
def fileStem (naming : Naming) (name : String) : Outcome String :=
  match naming.stemRules with
  | .typed rules => applyRules rules (Words.snakeCase name)
  | .untyped _ => .error .noSuchPart

/-- How many characters to leave out of a discriminator: a number, a truth value as zero or one, or
null for none. -/
def cutLength (naming : Naming) : Outcome Int :=
  match naming.cut with
  | .typed n => .ok n
  | .untyped (.bool b) => .ok (if b then 1 else 0)
  | .untyped .null => .ok 0
  | .untyped _ => .error .wrongType

/-- A text without its first `n` characters; a negative `n` counts the characters that stay, from
the end. -/
def dropFront (n : Int) (text : String) : String :=
  let cs := text.toList
  String.ofList (if 0 ≤ n then cs.drop n.toNat else cs.drop (cs.length - (-n).toNat))

/-- The keyword that lists properties in order, if one can. -/
def orderKeyword (naming : Naming) : Outcome (Option String) :=
  match naming.orderKey with
  | .typed key => .ok (some key)
  | .untyped value => if value.isCompound then .error .wrongType else .ok none

/-! ## Conventions from and to JSON -/

/-- The rules of an object. -/
def rules? : Json.Value → Option (Entries (Setting String))
  | .obj members => some (members.map fun (k, v) => (k, .text v))
  | _ => none

/-- Rules as an object. -/
def rulesJson (rules : Entries (Setting String)) : Json.Value :=
  .obj (rules.map fun (k, v) => (k, v.toJson .str))

/-- Sets the convention of a key; there are no others. -/
def set (naming : Naming) (key : String) (value : Json.Value) : Outcome Naming :=
  match key with
  | "params_suffix" => .ok { naming with ending := .text value }
  | "params_replacement" => .ok { naming with replacement := .text value }
  | "file_stem_suffixes" => .ok { naming with stemRules := .ofJson rules? value }
  | "discriminator_prefix_length" => .ok { naming with cut := .number value }
  | "else_prefix" => .ok { naming with otherwise := .text value }
  | "default_base_name" => .ok { naming with baseName := .text value }
  | "root_model_name" => .ok { naming with rootName := .text value }
  | "property_order_key" => .ok { naming with orderKey := .text value }
  | _ => .error .wrongType

/-- The conventions that members set, the others as by default. -/
def ofMembers (members : Json.Members) : Outcome Naming :=
  members.foldlM (fun naming (key, value) => naming.set key value) {}

/-- One entry of rules given as a list: a pair of texts in an array, an object with two names or a
text of two characters. -/
def rulePair (index : Nat) : Json.Value → Outcome (String × Json.Value)
  | .arr [key, value] => if key.isCompound then .error .wrongType else .ok (key.display, value)
  | .arr items => .error (.ruleLength index items.length)
  | .obj [(key, _), (value, _)] => .ok (key, .str value)
  | .obj members => .error (.ruleLength index members.length)
  | .str s =>
    match s.toList with
    | [key, value] => .ok (String.singleton key, .str (String.singleton value))
    | cs => .error (.ruleLength index cs.length)
  | _ => .error .wrongType

/-- The rules as an object, as far as what was configured can be read as one. -/
def rulesObject : Setting (Entries (Setting String)) → Outcome Json.Value
  | .typed rules => .ok (rulesJson rules)
  | .untyped (.arr items) => do
    let pairs ← items.zipIdx.mapM fun (item, index) => rulePair index item
    return .obj (Entries.ofWrites pairs)
  | .untyped (.str s) =>
    match s.toList with
    | [] => .ok (.obj [])
    | _ => .error (.ruleLength 0 1)
  | .untyped _ => .error .wrongType

/-- The conventions as an object with all keys. -/
def toJson (naming : Naming) : Outcome Json.Value := do
  let rules ← rulesObject naming.stemRules
  return .obj
    [("params_suffix", naming.ending.toJson .str),
      ("params_replacement", naming.replacement.toJson .str),
      ("file_stem_suffixes", rules),
      ("discriminator_prefix_length", naming.cut.toJson .int),
      ("else_prefix", naming.otherwise.toJson .str),
      ("default_base_name", naming.baseName.toJson .str),
      ("root_model_name", naming.rootName.toJson .str),
      ("property_order_key", naming.orderKey.toJson .str)]

end Naming

/-- The conventions of a setting, where one of them is asked for: what is no object has none. -/
def Setting.conventions : Setting Naming → Outcome Naming
  | .typed naming => .ok naming
  | .untyped _ => .error .noSuchPart

/-- The conventions by which names are formed: those by default if none are set. What is set and is
no object fails only when a name is formed. -/
def Setting.namer : Setting Naming → Setting Naming
  | .typed naming => .typed naming
  | .untyped value => if value.isSet then .untyped value else .typed {}

end SchemaCodegen
