import SchemaCodegen.Text.Digit
import SchemaCodegen.Text.WordCharacter

/-!
# Python attribute names

A property becomes an attribute: what is no word character becomes an underscore, an underscore goes
before a digit or stands for an empty name, and another one after a keyword.
-/

namespace SchemaCodegen.Python

/-- The words that cannot be names. -/
def keywords : List String :=
  ["False", "None", "True", "and", "as", "assert", "async", "await", "break", "class", "continue",
    "def", "del", "elif", "else", "except", "finally", "for", "from", "global", "if", "import", "in",
    "is", "lambda", "nonlocal", "not", "or", "pass", "raise", "return", "try", "while", "with",
    "yield"]

/-- Whether a word is a keyword. -/
def isKeyword (name : String) : Bool := keywords.contains name

/-- A name of word characters. -/
def worded (name : List Char) : List Char := name.map fun c => if Text.isWord c then c else '_'

/-- A name that neither is empty nor begins with a digit. -/
def begun : List Char → List Char
  | [] => ['_']
  | c :: rest => if Text.isDigit c then '_' :: c :: rest else c :: rest

/-- A name that is no keyword. -/
def unreserved (name : String) : String := if isKeyword name then name ++ "_" else name

/-- The attribute of a property. -/
def attributeName (name : String) : String :=
  unreserved (String.ofList (begun (worded name.toList)))

end SchemaCodegen.Python
