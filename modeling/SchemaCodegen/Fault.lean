import SchemaCodegen.Json.Display
import SchemaCodegen.Json.Reader
import SchemaCodegen.Model

/-!
# Faults

Every way in which reading settings, loading a schema, forming models, rendering and writing can
fail, by its cause. `Fault.message` holds the wording of all of them. The faults that a user of the
command can expect are *reported*; the others come from values of unexpected types.
-/

namespace SchemaCodegen

/-- Why the file system refuses an operation. -/
inductive Refusal where
  | noEntry
  | busy
  | exists
  | notDirectory
  | isDirectory
  | nameTooLong
  deriving DecidableEq, Repr

/-- The number by which a refusal is known. -/
def Refusal.number : Refusal → Nat
  | .noEntry => 2
  | .busy => 16
  | .exists => 17
  | .notDirectory => 20
  | .isDirectory => 21
  | .nameTooLong => 36

/-- A refusal in words. -/
def Refusal.text : Refusal → String
  | .noEntry => "No such file or directory"
  | .busy => "Device or resource busy"
  | .exists => "File exists"
  | .notDirectory => "Not a directory"
  | .isDirectory => "Is a directory"
  | .nameTooLong => "File name too long"

/-- A refusal with the path it is about, where that is part of the message. -/
structure SystemFault where
  refusal : Refusal
  path : Option String := none
  deriving DecidableEq, Repr

/-- The number and the words of a refusal, without a path. -/
def SystemFault.brief (fault : SystemFault) : String :=
  s!"[Errno {fault.refusal.number}] {fault.refusal.text}"

/-- A refusal in full. -/
def SystemFault.message (fault : SystemFault) : String :=
  match fault.path with
  | none => fault.brief
  | some path => fault.brief ++ ": " ++ Quoted.quoted path

/-- What is wrong with a JSON text and where. -/
def Json.Fault.message : Json.Fault → String
  | .malformed cause line column offset =>
    s!"{cause.message}: line {line} column {column} (char {offset})"
  | .tooManyDigits count =>
    "Exceeds the limit (4300 digits) for integer string conversion: value has " ++ toString count ++
      " digits; use sys.set_int_max_str_digits() to increase the limit"
  | .tooDeep => "maximum recursion depth exceeded"

/-- Why a union cannot be rendered. -/
inductive UnionFault where
  | noKey
  | noVariants
  | variantWithout (variant key : String)
  deriving DecidableEq, Repr

/-- The wording of a union's fault. -/
def UnionFault.message : UnionFault → String
  | .noKey => "discriminated model has no union key"
  | .noVariants => "discriminated model has no variants"
  | .variantWithout variant key => s!"variant {variant} has no {key} field"

/-- The cause of a failure. -/
inductive Fault where
  /-- The condition of a conditional schema names no property. -/
  | noDiscriminator
  /-- The condition names several properties and the policy allows one. -/
  | severalDiscriminators (keys : List String)
  /-- The property that the condition names is not compared with a truth value. -/
  | discriminatorValue (key : String) (found : Json.Value)
  /-- A node lacks a keyword that it needs. -/
  | missingKeyword (keyword path : String)
  /-- References that point at no model. -/
  | unresolved (references : List Reference)
  /-- The file of a schema cannot be read. -/
  | unreadable (source : String) (cause : SystemFault)
  /-- A schema is no JSON text. -/
  | notJson (source : String) (cause : Json.Fault)
  /-- The text at an address could not be had. -/
  | unfetched (url reason : String)
  /-- A union cannot be rendered. -/
  | unrenderable (model : String) (cause : UnionFault)
  /-- A unit is not valid in its language. -/
  | refused (reason : String)
  /-- The target language is not known. -/
  | unknownLanguage (found : Json.Value)
  /-- The policy for several discriminators is not known. -/
  | unknownPolicy (found : Json.Value)
  /-- An entry of a list of suffix rules is no pair. -/
  | ruleLength (index length : Nat)
  /-- A header has no name or no colon. -/
  | badHeader (text : String)
  /-- The host of an address is malformed. -/
  | badAddress (reason : String)
  /-- A path or a unit holds the null character. -/
  | nullCharacter (place : String)
  /-- A whole number has too many digits to be read. -/
  | tooManyDigits (cause : Json.Fault)
  /-- A value has another type than its use asks for. -/
  | wrongType
  /-- A value lacks the part that is asked of it. -/
  | noSuchPart
  /-- A text that should be an expression of the target language is none. -/
  | notAnExpression
  /-- Such a text begins with blanks. -/
  | indented
  /-- The bytes of a file are no text. -/
  | undecodable
  /-- The settings are no JSON text. -/
  | settingsNotJson (cause : Json.Fault)
  /-- A value is nested too deeply. -/
  | tooDeep
  /-- The file system refuses. -/
  | system (cause : SystemFault)
  deriving DecidableEq

namespace Fault

/-- The wording of a fault. -/
def message : Fault → String
  | .noDiscriminator => "Conditional schema has no discriminator property under if.properties"
  | .severalDiscriminators keys =>
    "Conditional schema declares several discriminator properties: " ++ ", ".intercalate keys
  | .discriminatorValue key found =>
    s!"Discriminator {key} must have a boolean const, got {found.shown}"
  | .missingKeyword keyword path => s!"Missing '{keyword}' keyword at {path}"
  | .unresolved references =>
    "Unresolved references: " ++
      ", ".intercalate (references.map fun r => s!"{r.model}.{r.field} -> {r.target}")
  | .unreadable source cause => s!"Cannot read schema file {source}: {cause.message}"
  | .notJson source cause => s!"Schema {source} is not valid JSON: {cause.message}"
  | .unfetched url reason => s!"Cannot fetch schema from {url}: {reason}"
  | .unrenderable model cause => s!"Cannot render {model}: {cause.message}"
  | .refused reason => reason
  | .unknownLanguage found => s!"Language not supported: {found.display}"
  | .unknownPolicy found => s!"Unknown conditional discriminator policy: {found.display}"
  | .ruleLength index length =>
    s!"dictionary update sequence element #{index} has length {length}; 2 is required"
  | .badHeader text => s!"Invalid header {Quoted.quoted text}, expected Key:Value"
  | .badAddress reason => reason
  | .nullCharacter place => place
  | .tooManyDigits cause => cause.message
  | .wrongType => "a value has the wrong type"
  | .noSuchPart => "a value has no such part"
  | .notAnExpression => "invalid syntax"
  | .indented => "unexpected indent"
  | .undecodable => "invalid bytes"
  | .settingsNotJson cause => cause.message
  | .tooDeep => "nested too deeply"
  | .system cause => cause.message

/-- Whether the command reports the fault as one of the schema or its output. -/
def isReported : Fault → Bool
  | .noDiscriminator | .severalDiscriminators _ | .discriminatorValue _ _ | .missingKeyword _ _
  | .unresolved _ | .unreadable _ _ | .notJson _ _ | .unfetched _ _ | .unrenderable _ _
  | .refused _ => true
  | _ => false

end Fault

/-- A result or the cause why there is none. -/
abbrev Outcome (α : Type) := Except Fault α

end SchemaCodegen
