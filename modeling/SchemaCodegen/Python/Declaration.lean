import SchemaCodegen.Python.Expression
import SchemaCodegen.Text.Blank
import SchemaCodegen.Text.Pieces

/-!
# Python declarations

Classes, their functions, and imports, as lines. `tidy` sets the parts of a written class apart:
an empty line goes before each function and after the text that documents the class.
-/

namespace SchemaCodegen.Python

/-- A statement of a function. -/
inductive Step where
  | assign (name : String) (value : Expr)
  | ret (value : Expr)

/-- A function of a class. Parameters may have an annotation. -/
structure Function where
  name : String
  decorators : List Expr := []
  parameters : List (String × Option Expr)
  returns : Expr
  body : List Step

/-- A part of a class. -/
inductive Part where
  | documentation (text : String)
  | field (name : String) (type : Expr) (value : Option Expr)
  | function (f : Function)

/-- A class. -/
structure ClassDef where
  name : String
  bases : List String := []
  decorators : List Expr := []
  parts : List Part := []

/-- The import of names from a module, `level` packages up. -/
structure Import where
  level : Nat := 0
  module : String
  names : List String
  deriving DecidableEq

/-- A statement as it is written. -/
def Step.written : Step → String
  | .assign name value => name ++ " = " ++ value.written
  | .ret value => "return " ++ value.written

/-- A parameter as it is written. -/
def parameterText : String × Option Expr → String
  | (name, none) => name
  | (name, some type) => name ++ ": " ++ type.written

/-- The lines of a function in a class, after an empty line. -/
def Function.lines (f : Function) : List String :=
  [""] ++ f.decorators.map (fun e => "    @" ++ e.written) ++
    ["    def " ++ f.name ++ "(" ++ commas (f.parameters.map parameterText) ++ ") -> " ++
      f.returns.written ++ ":"] ++
    f.body.map fun step => "        " ++ step.written

/-- The lines of a part of a class. -/
def Part.lines : Part → List String
  | .documentation text => ["    " ++ String.ofList (tripleQuoted text.toList)]
  | .field name type value =>
    ["    " ++ name ++ ": " ++ type.written ++
      match value with
      | none => ""
      | some e => " = " ++ e.written]
  | .function f => f.lines

/-- The lines of a class; one without parts passes. -/
def ClassDef.lines (cls : ClassDef) : List String :=
  cls.decorators.map (fun e => "@" ++ e.written) ++
    ["class " ++ cls.name ++
      (if cls.bases.isEmpty then "" else "(" ++ commas cls.bases ++ ")") ++ ":"] ++
    if cls.parts.isEmpty then ["    pass"] else cls.parts.flatMap (·.lines)

/-- An import as it is written. -/
def Import.written (imp : Import) : String :=
  "from " ++ String.ofList (List.replicate imp.level '.') ++ imp.module ++ " import " ++
    commas imp.names

/-! ## Empty lines -/

/-- Whether a line begins with a text. -/
def begins (start : String) (line : List Char) : Bool := start.toList.isPrefixOf line

/-- Whether a function begins at a line, with its decorators. -/
def opensFunction (line : List Char) : Bool := begins "    @" line || begins "    def " line

/-- Whether a line, blanks aside, ends with the marks of a documenting text. -/
def endsDocumentation (line : List Char) : Bool := (triple '"').isSuffixOf (Text.trim line)

/-- Whether a line is inside a documenting text after it, given whether it was before. -/
def staysInside (inside : Bool) (line : List Char) : Bool :=
  if begins "    \"\"\"" line then
    !(endsDocumentation line && 3 < (Text.trim line).length)
  else inside && !endsDocumentation line

/-- Whether a documenting text ends at a line. -/
def closesDocumentation (inside : Bool) (line : List Char) : Bool :=
  (inside || begins "    \"\"\"" line) && !staysInside inside line

/-- Lines with an empty line before each function and after each documenting text; `last` is the
line written before. -/
def spaced (inside : Bool) (last : Option (List Char)) : List (List Char) → List (List Char)
  | [] => []
  | line :: rest =>
    let before := opensFunction line && last.any (!begins "    @" ·)
    let after := closesDocumentation inside line
    (if before then [[]] else []) ++ line :: (if after then [[]] else []) ++
      spaced (staysInside inside line) (some (if after then [] else line)) rest

/-- A text with at most two line feeds in a row; `written` are those just before it. -/
def atMostTwo (written : Nat) : List Char → List Char
  | [] => []
  | c :: rest =>
    if c = '\n' then
      if written < 2 then c :: atMostTwo (written + 1) rest else atMostTwo written rest
    else c :: atMostTwo 0 rest

/-- A text without the line feeds at its end. -/
def withoutFinalFeeds (text : List Char) : List Char :=
  (text.reverse.dropWhile (· == '\n')).reverse

/-- A written class with empty lines between its parts. -/
def tidy (text : List Char) : List Char :=
  withoutFinalFeeds (atMostTwo 0 (['\n'].intercalate (spaced false none (Text.pieces '\n' text))))

/-- A class as it stands in a unit. -/
def ClassDef.written (cls : ClassDef) : String :=
  String.ofList (tidy ("\n".intercalate cls.lines).toList)

end SchemaCodegen.Python
