import SchemaCodegen.Text.Blank

/-!
# Dart declarations

The parts of a class and the lines they are written in. A declaration is a list of lines, without
line ends; a comment has a line of its own for each line of its text.
-/

namespace SchemaCodegen.Dart

/-- An annotation, perhaps with arguments. -/
structure Annotation where
  name : String
  arguments : Option (List String) := none

/-- A named parameter of a constructor. One without a type initialises the field of its name. -/
structure Parameter where
  name : String
  type : Option String
  required : Bool := false
  annotations : List Annotation := []
  comment : List String := []

/-- A field that does not change. -/
structure Member where
  name : String
  type : String
  comment : List String := []

/-- A constructor; one of a union redirects to the class of its arm. -/
structure Constructor where
  className : String
  name : String := ""
  isConst : Bool := false
  isFactory : Bool := false
  parameters : List Parameter := []
  redirect : Option String := none
  annotations : List Annotation := []

/-- A class. Methods are lists of lines, as they stand inside the class. -/
structure Class where
  name : String
  comment : List String := []
  annotations : List Annotation := []
  mixins : List String := []
  members : List Member := []
  constructors : List Constructor := []
  methods : List (List String) := []

/-- The lines of a comment: those of a text, each without the blanks around it. -/
def commentLines (text : Option String) : List String :=
  match text with
  | none => []
  | some text => (Text.splitLines (Text.strip text)).map Text.strip

/-- A comment at some indentation. -/
def commented (indent : String) (lines : List String) : List String :=
  lines.map fun line => indent ++ "/// " ++ line

/-- An annotation as text. -/
def Annotation.text (tag : Annotation) : String :=
  match tag.arguments with
  | none => "@" ++ tag.name
  | some arguments => "@" ++ tag.name ++ "(" ++ ", ".intercalate arguments ++ ")"

/-- A parameter as text. -/
def Parameter.text (parameter : Parameter) : String :=
  " ".intercalate
    (parameter.annotations.map (·.text) ++ (if parameter.required then ["required"] else []) ++
      [match parameter.type with
        | none => "this." ++ parameter.name
        | some type => type ++ " " ++ parameter.name])

/-- A member with its comment. -/
def Member.lines (member : Member) : List String :=
  commented "  " member.comment ++ [s!"  final {member.type} {member.name};"]

/-- What stands before the parameters of a constructor. -/
def Constructor.head (constructor : Constructor) : String :=
  " ".intercalate
    ((if constructor.isConst then ["const"] else []) ++
      (if constructor.isFactory then ["factory"] else []) ++
      [if constructor.name = "" then constructor.className
        else constructor.className ++ "." ++ constructor.name])

/-- What stands after the parameters of a constructor. -/
def Constructor.tail (constructor : Constructor) : String :=
  match constructor.redirect with
  | none => ""
  | some target => " = " ++ target

/-- A constructor with its annotations, one line for each parameter. -/
def Constructor.lines (constructor : Constructor) : List String :=
  constructor.annotations.map (fun tag => "  " ++ tag.text) ++
    if constructor.parameters.isEmpty then
      ["  " ++ constructor.head ++ "()" ++ constructor.tail ++ ";"]
    else
      ["  " ++ constructor.head ++ "(\x7b"] ++
        constructor.parameters.flatMap
          (fun p => commented "    " p.comment ++ ["    " ++ p.text ++ ","]) ++
        ["  \x7d)" ++ constructor.tail ++ ";"]

/-- A line inside a class; empty lines are not indented. -/
def indented (line : String) : String := if line = "" then "" else "  " ++ line

/-- A class. Members, constructors and methods are set apart by empty lines. -/
def Class.lines (cls : Class) : List String :=
  commented "" cls.comment ++ cls.annotations.map (·.text) ++
    ["class " ++ cls.name ++
      (if cls.mixins.isEmpty then "" else " with " ++ ", ".intercalate cls.mixins) ++ " \x7b"] ++
    cls.members.flatMap (·.lines) ++
    (if cls.members.isEmpty || cls.constructors.isEmpty then [] else [""]) ++
    [""].intercalate (cls.constructors.map (·.lines)) ++
    cls.methods.flatMap (fun method => "" :: method.map indented) ++
    ["\x7d"]

/-- Lines joined by line feeds. -/
def joinLines (lines : List String) : String := "\n".intercalate lines

end SchemaCodegen.Dart
