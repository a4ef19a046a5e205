import SchemaCodegen.Python.Literal

/-!
# Python expressions

The expressions that generated units are made of, and their text. An operand is written in
parentheses where it binds less tightly than its place asks for.
-/

namespace SchemaCodegen.Python

/-- An operator in front of its operand. -/
inductive UnaryOp where
  | plus
  | minus
  | invert
  | not
  deriving DecidableEq, Repr

/-- An operator between its operands. -/
inductive BinaryOp where
  | bitOr
  | bitXor
  | bitAnd
  | shiftLeft
  | shiftRight
  | add
  | subtract
  | multiply
  | matrixMultiply
  | divide
  | floorDivide
  | modulo
  | power
  deriving DecidableEq, Repr

/-- An expression. -/
inductive Expr where
  | name (id : String)
  | literal (value : Literal)
  | attribute (value : Expr) (name : String)
  | subscript (value index : Expr)
  /-- A call with arguments by position and by name. -/
  | call (function : Expr) (arguments : List Expr) (named : List (String × Expr))
  | unary (op : UnaryOp) (operand : Expr)
  | binary (op : BinaryOp) (left right : Expr)
  | isNot (left right : Expr)
  /-- `body if test else otherwise`. -/
  | conditional (body test otherwise : Expr)
  /-- A function of one parameter. -/
  | lambda (parameter : String) (body : Expr)
  /-- The list of `element` for each value of `variable` in `source`. -/
  | each (element : Expr) (variableName : String) (source : Expr)
  | tuple (items : List Expr)
  | list (items : List Expr)
  | dict (entries : List (Expr × Expr))
  deriving Inhabited

/-- How tightly an expression binds; greater is tighter. -/
abbrev Level := Nat

namespace Level

/-- Conditionals and functions, and every place that takes any expression. -/
def any : Level := 0
/-- What stands beside a condition. -/
def branch : Level := 1
/-- Operands of a negation. -/
def negation : Level := 3
/-- Comparisons. -/
def comparison : Level := 4
/-- Operands of a comparison. -/
def operand : Level := 5
/-- Operands of a sign. -/
def sign : Level := 11
/-- Powers. -/
def power : Level := 12
/-- What is called, indexed or has attributes. -/
def atom : Level := 14

end Level

/-- How tightly an operator binds. -/
def BinaryOp.level : BinaryOp → Level
  | .bitOr => 5
  | .bitXor => 6
  | .bitAnd => 7
  | .shiftLeft | .shiftRight => 8
  | .add | .subtract => 9
  | .multiply | .matrixMultiply | .divide | .floorDivide | .modulo => 10
  | .power => Level.power

/-- The sign of an operator. -/
def BinaryOp.symbol : BinaryOp → String
  | .bitOr => "|"
  | .bitXor => "^"
  | .bitAnd => "&"
  | .shiftLeft => "<<"
  | .shiftRight => ">>"
  | .add => "+"
  | .subtract => "-"
  | .multiply => "*"
  | .matrixMultiply => "@"
  | .divide => "/"
  | .floorDivide => "//"
  | .modulo => "%"
  | .power => "**"

/-- The level that the left operand must have; powers group to the right. -/
def BinaryOp.left (op : BinaryOp) : Level := if op = .power then op.level + 1 else op.level

/-- The level that the right operand must have. -/
def BinaryOp.right (op : BinaryOp) : Level := if op = .power then op.level else op.level + 1

/-- How tightly an operator in front binds. -/
def UnaryOp.level : UnaryOp → Level
  | .not => Level.negation
  | _ => Level.sign

/-- An operator in front of its operand. -/
def UnaryOp.symbol : UnaryOp → String
  | .plus => "+"
  | .minus => "-"
  | .invert => "~"
  | .not => "not "

/-- Parentheses where an expression of one level stands in a place of another. -/
def parenthesized (level place : Level) (text : String) : String :=
  if level < place then "(" ++ text ++ ")" else text

/-- Texts set apart by commas. -/
def commas (texts : List String) : String := ", ".intercalate texts

/-- The items of a tuple; one alone is followed by a comma. -/
def tupleItems : List String → String
  | [item] => item ++ ","
  | items => commas items

namespace Expr

mutual
/-- The text of an expression in a place of some level. -/
def text (place : Level) : Expr → String
  | .name id => id
  | .literal value => value.written
  | .attribute value member =>
    value.text Level.atom ++
      (match value with
        | .literal v => if v.needsSpace then " ." else "."
        | _ => ".") ++ member
  | .subscript value index => value.text Level.atom ++ "[" ++ index.indexText ++ "]"
  | .call function arguments named =>
    function.text Level.atom ++ "(" ++ commas (texts arguments ++ namedTexts named) ++ ")"
  | .unary op operand => parenthesized op.level place (op.symbol ++ operand.text op.level)
  | .binary op left right =>
    parenthesized op.level place
      (left.text op.left ++ " " ++ op.symbol ++ " " ++ right.text op.right)
  | .isNot left right =>
    parenthesized Level.comparison place
      (left.text Level.operand ++ " is not " ++ right.text Level.operand)
  | .conditional body test otherwise =>
    parenthesized Level.any place
      (body.text Level.branch ++ " if " ++ test.text Level.branch ++ " else " ++
        otherwise.text Level.any)
  | .lambda parameter body =>
    parenthesized Level.any place ("lambda " ++ parameter ++ ": " ++ body.text Level.any)
  | .each element variableName source =>
    "[" ++ element.text Level.any ++ " for " ++ variableName ++ " in " ++
      source.text Level.branch ++ "]"
  | .tuple items => "(" ++ tupleItems (texts items) ++ ")"
  | .list items => "[" ++ commas (texts items) ++ "]"
  | .dict entries => "\x7b" ++ commas (entryTexts entries) ++ "\x7d"
/-- An index: a tuple stands without parentheses, unless it is empty. -/
def indexText : Expr → String
  | .tuple (item :: items) => tupleItems (item.text Level.any :: texts items)
  | e => e.text Level.any
/-- The texts of expressions. -/
def texts : List Expr → List String
  | [] => []
  | e :: rest => e.text Level.any :: texts rest
/-- The texts of arguments by name. -/
def namedTexts : List (String × Expr) → List String
  | [] => []
  | (key, e) :: rest => (key ++ "=" ++ e.text Level.any) :: namedTexts rest
/-- The texts of the entries of a dictionary. -/
def entryTexts : List (Expr × Expr) → List String
  | [] => []
  | (key, value) :: rest =>
    (key.text Level.any ++ ": " ++ value.text Level.any) :: entryTexts rest
end

/-- The text of an expression on its own. -/
def written (e : Expr) : String := e.text Level.any

end Expr

end SchemaCodegen.Python
