/-!
# Parameters

The options that the command takes, how they are spelled, and the arguments it needs.
-/

namespace SchemaCodegen.CommandLine

/-- An option of the command. -/
inductive Parameter where
  | config
  | language
  | plain
  | noSerialization
  | checkReferences
  | header
  | verbose
  | help
  deriving DecidableEq, Repr

namespace Parameter

/-- All options, as they are explained. -/
def all : List Parameter :=
  [.config, .language, .plain, .noSerialization, .checkReferences, .header, .verbose, .help]

/-- The name of an option. -/
def long : Parameter → String
  | .config => "--config"
  | .language => "--language"
  | .plain => "--plain"
  | .noSerialization => "--no-serialization"
  | .checkReferences => "--check-references"
  | .header => "--header"
  | .verbose => "--verbose"
  | .help => "--help"

/-- The letter that stands for an option. -/
def letter? : Parameter → Option Char
  | .config => some 'c'
  | .language => some 'l'
  | .header => some 'H'
  | .verbose => some 'v'
  | _ => none

/-- What the value of an option is called, if it takes one. -/
def value? : Parameter → Option String
  | .config => some "PATH"
  | .language => some "[dart|python]"
  | .header => some "TEXT"
  | _ => none

/-- Whether an option takes a value. -/
def takesValue (parameter : Parameter) : Bool := parameter.value?.isSome

/-- What an option does. -/
def purpose : Parameter → String
  | .plain => "Plain classes instead of discriminated unions"
  | .noSerialization => "Do not emit fromJson/toJson (from_dict/to_dict)"
  | .checkReferences => "Fail when a $ref names no model of the schema"
  | .header => "HTTP header for URL sources, as Key:Value"
  | .help => "Show this message and exit."
  | _ => ""

/-- The option of a name. -/
def ofLong? (name : String) : Option Parameter := all.find? (·.long == name)

/-- The option of a letter. -/
def ofLetter? (letter : Char) : Option Parameter := all.find? (·.letter? == some letter)

/-- The spelling of a letter's option. -/
def short (letter : Char) : String := String.ofList ['-', letter]

theorem ofLong?_long (parameter : Parameter) : ofLong? parameter.long = some parameter := by
  cases parameter <;> decide

end Parameter

/-- An argument of the command. -/
inductive Argument where
  | source
  | output
  deriving DecidableEq, Repr

/-- The name of an argument. -/
def Argument.name : Argument → String
  | .source => "SOURCE"
  | .output => "OUTPUT"

end SchemaCodegen.CommandLine
