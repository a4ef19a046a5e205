import SchemaCodegen.CommandLine.Parameter
import SchemaCodegen.Fault
import SchemaCodegen.Settings.Config
import SchemaCodegen.Text.Wrapped

/-!
# Usage

How the command is used: its help, in two columns, and what is said when it is used wrongly.
-/

namespace SchemaCodegen.CommandLine

/-- The name of the command. -/
def command : String := "json-schema-to-classes"

namespace Usage

/-- The width of the help. -/
def width : Nat := 80

/-- The line that shows how the command is called. -/
def line : String :=
  s!"Usage: {command} [OPTIONS] " ++ " ".intercalate ([Argument.source, .output].map Argument.name)

/-- The line that points at the help. -/
def hint : String := s!"Try '{command} {Parameter.help.long}' for help."

/-- Blanks. -/
def blanks (count : Nat) : String := String.ofList (List.replicate count ' ')

/-- What the command does, by paragraphs. -/
def description : List String :=
  ["Generate data classes from the JSON Schema SOURCE (file or URL) into OUTPUT.",
    "A '*' in OUTPUT writes one file per model, the '*' being replaced by the model's file stem " ++
      "(e.g. 'lib/models/*/*.dart')."]

/-- How far the help is indented. -/
def margin : Nat := 2

/-- A paragraph of the description. -/
def paragraph (text : String) : List String :=
  "" :: (Text.wrap (width - margin) text).map (blanks margin ++ ·)

/-- The first column of an option. -/
def spelling (parameter : Parameter) : String :=
  (match parameter.letter? with
    | some letter => Parameter.short letter ++ ", "
    | none => "") ++
    parameter.long ++
    match parameter.value? with
    | some value => " " ++ value
    | none => ""

/-- How wide the first column may become. -/
def maxColumn : Nat := 30

/-- The blanks between the columns. -/
def gap : Nat := 2

/-- The width of the first column and the gap. -/
def column : Nat :=
  min ((Parameter.all.map fun p => (spelling p).length).foldl max 0) maxColumn + gap

/-- The lines of an option. -/
def entry (parameter : Parameter) : List String :=
  let first := blanks margin ++ spelling parameter
  match Text.wrap (width - column - margin) parameter.purpose with
  | [] => [first]
  | purpose :: more =>
    (first ++ blanks (column - (spelling parameter).length) ++ purpose) ::
      more.map (blanks (column + margin) ++ ·)

/-- The help. -/
def help : List String :=
  line :: description.flatMap paragraph ++ ["", "Options:"] ++ Parameter.all.flatMap entry

end Usage

/-- A wrong use of the command. -/
inductive Misuse where
  /-- There is no such option, but some are alike. -/
  | noSuchOption (name : String) (alike : List String)
  /-- An option lacks its value. -/
  | needsValue (name : String)
  /-- An option has a value that it does not take. -/
  | takesNoValue (name : String)
  /-- An argument is missing. -/
  | missing (argument : Argument)
  /-- There are further arguments. -/
  | extra (arguments : List String)
  /-- There is no such language. -/
  | noLanguage (name : String)
  /-- The settings are not where they should be. -/
  | noConfig (path : String)
  /-- A header cannot be read. -/
  | badHeader (reason : String)
  deriving DecidableEq

namespace Misuse

/-- How an option is named where its value is wrong. -/
def hint (parameter : Parameter) : String :=
  let long := "'" ++ parameter.long ++ "'"
  match parameter.letter? with
  | some letter => s!"{long} / '{Parameter.short letter}'"
  | none => long

/-- The languages that can be chosen. -/
def languages : String :=
  ", ".intercalate ([Language.dart, .python].map fun l => "'" ++ l.name ++ "'")

/-- A wrong use in words. -/
def message : Misuse → String
  | .noSuchOption name alike =>
    s!"No such option: {name}" ++
      match alike with
      | [] => ""
      | [one] => s!" Did you mean {one}?"
      | several => " (Possible options: " ++ ", ".intercalate several ++ ")"
  | .needsValue name => s!"Option {Quoted.quoted name} requires an argument."
  | .takesNoValue name => s!"Option {Quoted.quoted name} does not take a value."
  | .missing argument => s!"Missing argument '{argument.name}'."
  | .extra [argument] => s!"Got unexpected extra argument ({argument})"
  | .extra several => "Got unexpected extra arguments (" ++ " ".intercalate several ++ ")"
  | .noLanguage name =>
    s!"Invalid value for {hint .language}: {Quoted.quoted name} is not one of {languages}."
  | .noConfig path =>
    s!"Invalid value for {hint .config}: Path {Quoted.quoted path} does not exist."
  | .badHeader reason => s!"Invalid value for {Parameter.header.long}: {reason}"

/-- What is said of a wrong use. -/
def lines (misuse : Misuse) : List String :=
  [Usage.line, Usage.hint, "", s!"Error: {misuse.message}"]

end Misuse

end SchemaCodegen.CommandLine
