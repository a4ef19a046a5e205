import SchemaCodegen.Json.Value
import SchemaCodegen.Number.Shortest
import SchemaCodegen.Text.Quoted

/-!
# Displayed values

How a JSON value stands in a message: words for null and the truth values, the shortest decimal for
a double, quoted texts inside arrays and objects. A text on its own is shown without quotes.
-/

namespace SchemaCodegen.Json.Value

mutual
/-- The value with quoted texts. -/
def shown : Value → String
  | .null => "None"
  | .bool true => "True"
  | .bool false => "False"
  | .int n => toString n
  | .float x => x.text
  | .str s => Quoted.quoted s
  | .arr items => "[" ++ ", ".intercalate (shownItems items) ++ "]"
  | .obj members => "\x7b" ++ ", ".intercalate (shownMembers members) ++ "\x7d"
/-- Each item with quoted texts. -/
def shownItems : List Value → List String
  | [] => []
  | v :: rest => v.shown :: shownItems rest
/-- Each member as its quoted name and its value. -/
def shownMembers : List (String × Value) → List String
  | [] => []
  | (k, v) :: rest => (Quoted.quoted k ++ ": " ++ v.shown) :: shownMembers rest
end

/-- The value as it stands in a message. -/
def display : Value → String
  | .str s => s
  | v => v.shown

@[simp] theorem display_str (s : String) : (Value.str s).display = s := rfl

end SchemaCodegen.Json.Value
