import SchemaCodegen.Settings.Config

/-!
# The formatting tool

Units may be handed to a tool that formats them, if it is installed. The tool gets the options as
they were configured; the version of the language only if the tool knows it. What the tool rejects
stays as it is.
-/

namespace SchemaCodegen

/-- What the tool is asked for. -/
structure FormatRequest where
  lineLength : Json.Value
  stringNormalization : Json.Value
  magicTrailingComma : Json.Value
  versions : List String
  deriving DecidableEq

/-- An installed tool: the versions that it knows, and what it makes of a text, if it takes it. -/
structure Formatter where
  versions : List String
  format : FormatRequest → String → Option String

namespace Formatting

/-- The versions that the tool is asked for: the configured one in capitals, if the tool knows it. -/
def requestedVersions (formatting : Formatting) (known : List String) : Outcome (List String) :=
  if !formatting.targetVersion.isSet then .ok []
  else
    match formatting.targetVersion with
    | .str version =>
      let name := String.ofList (version.toList.map Char.toUpper)
      .ok (if known.contains name then [name] else [])
    | _ => .error .noSuchPart

/-- What the tool is asked for. -/
def request (formatting : Formatting) (known : List String) : Outcome FormatRequest := do
  return {
    lineLength := formatting.lineLength
    stringNormalization := formatting.stringNormalization
    magicTrailingComma := formatting.magicTrailingComma
    versions := ← formatting.requestedVersions known }

/-- A unit as the tool formats it; as it is, if there is no tool or the tool rejects it. -/
def apply (formatting : Formatting) (tool : Option Formatter) (code : String) : Outcome String :=
  match tool with
  | none => .ok code
  | some tool => do
    let request ← formatting.request tool.versions
    return (tool.format request code).getD code

end Formatting

end SchemaCodegen
