import SchemaCodegen.Settings.Naming

/-!
# Configuration

What is generated and how: the target language, the style of unions, the switches, the conventions
on names and the options of the formatting tool. `Config.ofJson` reads it from an object, in which
unknown keys are passed over, and `Config.toJson` writes it with all keys.
-/

namespace SchemaCodegen

/-- A target language. -/
inductive Language where
  | dart
  | python
  deriving DecidableEq, Repr, Inhabited

/-- The name of a language in settings. -/
def Language.name : Language → String
  | .dart => "dart"
  | .python => "python"

/-- What is done when a condition names several properties. -/
inductive Policy where
  /-- The schema is refused. -/
  | refuse
  /-- The first property is taken. -/
  | first
  deriving DecidableEq, Repr, Inhabited

/-- The name of a policy in settings. -/
def Policy.name : Policy → String
  | .refuse => "error"
  | .first => "first"

/-- The options that are handed to the formatting tool as they were configured. -/
structure Formatting where
  enabled : Json.Value := .bool false
  lineLength : Json.Value := .int 100
  targetVersion : Json.Value := .str "py312"
  stringNormalization : Json.Value := .bool true
  magicTrailingComma : Json.Value := .bool true
  deriving DecidableEq

/-- A configuration. -/
structure Config where
  language : Language := .dart
  /-- Unions with one class for each variant, and not one plain class. -/
  unions : Setting Bool := .typed true
  /-- Routines that read and write JSON. -/
  serialization : Setting Bool := .typed true
  /-- A comment that the unit is generated. -/
  comment : Setting Bool := .typed true
  /-- Annotations that are not evaluated. -/
  postponed : Setting Bool := .typed true
  /-- Whether references must point at models of the schema. -/
  checkReferences : Setting Bool := .typed false
  policy : Policy := .refuse
  /-- Whether a conditional schema without a list of required properties has no models. -/
  needsRequired : Setting Bool := .typed true
  naming : Setting Naming := .typed {}
  formatting : Setting Formatting := .typed {}
  /-- Whether the settings gave the configuration's own writing another value, after which it
  cannot be written. -/
  isSealed : Bool := false
  deriving DecidableEq

namespace Formatting

/-- Sets the option of a key; there are no others. -/
def set (formatting : Formatting) (key : String) (value : Json.Value) : Outcome Formatting :=
  match key with
  | "enabled" => .ok { formatting with enabled := value }
  | "line_length" => .ok { formatting with lineLength := value }
  | "target_version" => .ok { formatting with targetVersion := value }
  | "string_normalization" => .ok { formatting with stringNormalization := value }
  | "magic_trailing_comma" => .ok { formatting with magicTrailingComma := value }
  | _ => .error .wrongType

/-- The options that members set, the others as by default. -/
def ofMembers (members : Json.Members) : Outcome Formatting :=
  members.foldlM (fun formatting (key, value) => formatting.set key value) {}

/-- The options as an object with all keys. -/
def toJson (formatting : Formatting) : Json.Value :=
  .obj
    [("enabled", formatting.enabled), ("line_length", formatting.lineLength),
      ("target_version", formatting.targetVersion),
      ("string_normalization", formatting.stringNormalization),
      ("magic_trailing_comma", formatting.magicTrailingComma)]

end Formatting

/-- The options of a setting: what is no object has none. -/
def Setting.options : Setting Formatting → Outcome Formatting
  | .typed formatting => .ok formatting
  | .untyped _ => .error .noSuchPart

namespace Config

instance : Inhabited Config := ⟨{}⟩

/-- Settings while they are read: the language and the policy are checked at the end. -/
structure Draft where
  config : Config := {}
  language : Json.Value := .str "dart"
  policy : Json.Value := .str "error"
  isUnchecked : Bool := false
  /-- Whether there are conventions, of which a configuration has none of its own once its parts are
  replaced. -/
  hasNaming : Bool := true
  /-- Whether there are options of the formatting tool, likewise. -/
  hasFormatting : Bool := true

/-- The language of a name. -/
def language? : Json.Value → Option Language
  | .str "dart" => some .dart
  | .str "python" => some .python
  | _ => none

/-- The policy of a name. -/
def policy? : Json.Value → Option Policy
  | .str "error" => some .refuse
  | .str "first" => some .first
  | _ => none

/-- Checks the language, then the policy. Without conventions or options there is nothing that a
configuration can be used for. -/
def Draft.finish (draft : Draft) : Outcome Config :=
  if draft.isUnchecked then .error .wrongType
  else
    match language? draft.language, policy? draft.policy with
    | some language, some policy =>
      if draft.hasNaming && draft.hasFormatting then .ok { draft.config with language, policy }
      else .error .noSuchPart
    | none, _ => .error (.unknownLanguage draft.language)
    | _, none => .error (.unknownPolicy draft.policy)

/-- Sets the member of a key, if the key is one of a configuration's. -/
def Draft.set (draft : Draft) (key : String) (value : Json.Value) : Option Draft :=
  let config := draft.config
  match key with
  | "language" => some { draft with language := value }
  | "conditional_discriminator_policy" => some { draft with policy := value }
  | "generate_discriminated_union" =>
    some { draft with config := { config with unions := .switch value } }
  | "include_serialization" =>
    some { draft with config := { config with serialization := .switch value } }
  | "add_generation_comment" =>
    some { draft with config := { config with comment := .switch value } }
  | "use_future_annotations" =>
    some { draft with config := { config with postponed := .switch value } }
  | "validate_references" =>
    some { draft with config := { config with checkReferences := .switch value } }
  | "conditional_requires_required" =>
    some { draft with config := { config with needsRequired := .switch value } }
  | "naming" => some { draft with config := { config with naming := .untyped value } }
  | "formatter" => some { draft with config := { config with formatting := .untyped value } }
  | _ => none

/-- Parts in place of all that was read, each as it is. -/
def Draft.ofReplaced (parts : Json.Members) : Draft :=
  parts.foldl
    (fun draft (key, value) =>
      let next := (draft.set key value).getD draft
      match key with
      | "naming" => { next with hasNaming := true }
      | "formatter" => { next with hasFormatting := true }
      | "to_dict" => { next with config := { next.config with isSealed := true } }
      | "__post_init__" => { next with isUnchecked := true }
      | _ => next)
    { hasNaming := false, hasFormatting := false }

/-- Reads one member. Objects of conventions and options are read in full. A few names are no
settings but parts that every configuration has, and are refused or spoil the configuration. -/
def Draft.read (draft : Draft) (key : String) (value : Json.Value) : Outcome Draft :=
  let config := draft.config
  match key, value with
  | "naming", .obj members => do
    let naming ← Naming.ofMembers members
    return { draft with config := { config with naming := .typed naming }, hasNaming := true }
  | "naming", _ => .ok (if draft.hasNaming then (draft.set key value).getD draft else draft)
  | "formatter", .obj members => do
    let formatting ← Formatting.ofMembers members
    return { draft with
      config := { config with formatting := .typed formatting }, hasFormatting := true }
  | "formatter", _ => .ok (if draft.hasFormatting then (draft.set key value).getD draft else draft)
  | "to_dict", _ => .ok { draft with config := { config with isSealed := true } }
  | "__post_init__", _ => .ok { draft with isUnchecked := true }
  | "__class__", _ => .error .wrongType
  | "__dict__", .obj parts => .ok (.ofReplaced parts)
  | "__dict__", _ => .error .wrongType
  | "__weakref__", _ => .error .noSuchPart
  | _, _ => .ok ((draft.set key value).getD draft)

/-- The configuration that an object describes. -/
def ofJson : Json.Value → Outcome Config
  | .obj members => do
    let draft ← members.foldlM (fun draft (key, value) => Draft.read draft key value) {}
    draft.finish
  | _ => .error .noSuchPart

/-- The configuration with the given parts, as they are; there are no parts but its own. -/
def ofParts (parts : Json.Members) : Outcome Config := do
  let draft ← parts.foldlM
    (fun draft (key, value) =>
      match Draft.set draft key value with
      | some draft => .ok draft
      | none => .error .wrongType)
    {}
  draft.finish

/-- The configuration as an object with all keys. -/
def toJson (config : Config) : Outcome Json.Value := do
  if config.isSealed then .error .wrongType
  let naming ← config.naming.conventions
  let namingJson ← naming.toJson
  let formatting ← config.formatting.options
  let switch (s : Setting Bool) : Json.Value := s.toJson .bool
  return .obj
    [("language", .str config.language.name),
      ("generate_discriminated_union", switch config.unions),
      ("include_serialization", switch config.serialization),
      ("add_generation_comment", switch config.comment),
      ("use_future_annotations", switch config.postponed),
      ("validate_references", switch config.checkReferences),
      ("conditional_discriminator_policy", .str config.policy.name),
      ("conditional_requires_required", switch config.needsRequired),
      ("naming", namingJson),
      ("formatter", formatting.toJson)]

/-- The conventions by which class names and file stems are formed. -/
def namer (config : Config) : Outcome Naming := config.naming.namer.conventions

/-- The stem of the file of a class. -/
def stem (config : Config) (name : String) : Outcome String := do
  (← config.namer).fileStem name

/-- Whether units are handed to the formatting tool. -/
def isFormatted (config : Config) : Outcome Bool := do
  let formatting ← config.formatting.options
  return formatting.enabled.isSet && config.language == .python

end Config

end SchemaCodegen
