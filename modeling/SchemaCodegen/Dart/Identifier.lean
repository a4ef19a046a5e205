import SchemaCodegen.Text.Words

/-!
# Dart identifiers and literals

A property keeps its name if that is a public identifier and no reserved word; otherwise the name is
written in camel case and mended. A literal stands between apostrophes.
-/

namespace SchemaCodegen.Dart

/-- The words that cannot be identifiers. -/
def reservedWords : List String :=
  ["assert", "break", "case", "catch", "class", "const", "continue", "default", "do", "else", "enum",
    "extends", "false", "final", "finally", "for", "if", "in", "is", "new", "null", "rethrow",
    "return", "super", "switch", "this", "throw", "true", "try", "var", "void", "while", "with"]

/-- Letters and the dollar sign begin a public identifier. -/
def isStart (c : Char) : Bool := c.isAlpha || c = '$'

/-- Letters, digits, the underscore and the dollar sign continue an identifier. -/
def isPart (c : Char) : Bool := c.isAlphanum || c = '_' || c = '$'

/-- Whether a text is a public identifier. -/
def isIdentifier : List Char → Bool
  | [] => false
  | c :: rest => isStart c && rest.all isPart

/-- A text without one line feed at its end. -/
def withoutLineFeed (text : List Char) : List Char :=
  if text.getLast? = some '\n' then text.dropLast else text

/-- Whether a name stands as it is: an identifier, perhaps with a line feed at the end, and no
reserved word. -/
def isKept (name : String) : Bool :=
  isIdentifier (withoutLineFeed name.toList) && !reservedWords.contains name

/-- A word in front of a name that begins with a digit, or in place of an empty one. -/
def begun (name : String) : String :=
  match name.toList with
  | [] => "value"
  | c :: _ => if c.isDigit then "value" ++ name else name

/-- An underscore after a reserved word. -/
def unreserved (name : String) : String :=
  if reservedWords.contains name then name ++ "_" else name

/-- The identifier of a property. -/
def identifier (name : String) : String :=
  if isKept name then name else unreserved (begun (Words.camelCase name))

/-- A character of a literal. -/
def escape (c : Char) : List Char :=
  if c = '\\' || c = '\'' || c = '$' then ['\\', c] else [c]

/-- The literal of a text. -/
def literal (text : String) : String :=
  String.ofList ('\'' :: (text.toList.flatMap escape ++ ['\'']))

end SchemaCodegen.Dart
