import SchemaCodegen.Fault
import SchemaCodegen.Python.Expression
import SchemaCodegen.Python.Token

/-!
# Reading annotations

The annotation of a field is an expression that is given as text: the name of a class, or names in
subscripts and joined by signs. `Expr.read` reads it, so that a unit holds no text that is no
expression. It reads the forms of `Expr` that a name of a class can take: names, constants,
attributes, subscripts, calls, signs, tuples and lists.
-/

namespace SchemaCodegen.Python

namespace Reading

/-- The operator of a sign between operands. -/
def binaryOp? : String → Option BinaryOp
  | "|" => some .bitOr
  | "^" => some .bitXor
  | "&" => some .bitAnd
  | "<<" => some .shiftLeft
  | ">>" => some .shiftRight
  | "+" => some .add
  | "-" => some .subtract
  | "*" => some .multiply
  | "@" => some .matrixMultiply
  | "/" => some .divide
  | "//" => some .floorDivide
  | "%" => some .modulo
  | _ => none

/-- The operator of a sign in front of an operand. -/
def unaryOp? : String → Option UnaryOp
  | "+" => some .plus
  | "-" => some .minus
  | "~" => some .invert
  | _ => none

/-- The expression of a word: a constant or a name. -/
def word? (text : String) : Option Expr :=
  if text = "None" then some (.literal .none)
  else if text = "True" then some (.literal (.bool true))
  else if text = "False" then some (.literal (.bool false))
  else if isKeyword text then none
  else some (.name text)

/-- Texts that follow each other are one text. -/
def adjacent (read : String) : List Token → String × List Token
  | .quoted .text more :: rest => adjacent (read ++ more) rest
  | rest => (read, rest)

mutual
/-- An expression, with a condition if one follows. The first argument of these functions bounds
their nesting. -/
def expression : Nat → List Token → Option (Expr × List Token)
  | 0, _ => none
  | fuel + 1, tokens => do
    let (body, rest) ← operand fuel Level.operand tokens
    match rest with
    | .name "if" :: rest =>
      let (test, rest) ← operand fuel Level.operand rest
      match rest with
      | .name "else" :: rest =>
        let (otherwise, rest) ← expression fuel rest
        some (.conditional body test otherwise, rest)
      | _ => none
    | rest => some (body, rest)
/-- An operand of an operator that binds less tightly than `level`. -/
def operand : Nat → Level → List Token → Option (Expr × List Token)
  | 0, _, _ => none
  | fuel + 1, level, tokens => do
    let (left, rest) ← signed fuel tokens
    further fuel level left rest
/-- Further operators of at least some level, grouped to the left. -/
def further : Nat → Level → Expr → List Token → Option (Expr × List Token)
  | 0, _, _, _ => none
  | fuel + 1, level, left, .sign s :: rest =>
    match binaryOp? s with
    | none => some (left, .sign s :: rest)
    | some op =>
      if op.level < level then some (left, .sign s :: rest)
      else do
        let (right, rest) ← operand fuel (op.level + 1) rest
        further fuel level (.binary op left right) rest
  | _ + 1, _, left, rest => some (left, rest)
/-- An operand with the operators in front of it. -/
def signed : Nat → List Token → Option (Expr × List Token)
  | 0, _ => none
  | fuel + 1, tokens =>
    match tokens with
    | .sign s :: rest =>
      match unaryOp? s with
      | some op => do
        let (e, rest) ← signed fuel rest
        some (.unary op e, rest)
      | none => raised fuel tokens
    | _ => raised fuel tokens
/-- An operand, with its power if one follows. -/
def raised : Nat → List Token → Option (Expr × List Token)
  | 0, _ => none
  | fuel + 1, tokens => do
    let (base, rest) ← atom fuel tokens
    let (base, rest) ← trailers fuel base rest
    match rest with
    | .sign "**" :: rest =>
      let (exponent, rest) ← signed fuel rest
      some (.binary .power base exponent, rest)
    | rest => some (base, rest)
/-- A name, a constant, or an expression in brackets. -/
def atom : Nat → List Token → Option (Expr × List Token)
  | 0, _ => none
  | fuel + 1, tokens =>
    match tokens with
    | .name text :: rest => (word? text).map (·, rest)
    | .number value :: rest => some (.literal value, rest)
    | .quoted .text text :: rest =>
      let (text, rest) := adjacent text rest
      some (.literal (.text text), rest)
    | .sign "..." :: rest => some (.literal .ellipsis, rest)
    | .sign "(" :: .sign ")" :: rest => some (.tuple [], rest)
    | .sign "(" :: rest => do
      let (e, rest) ← items fuel rest
      match rest with
      | .sign ")" :: rest => some (e, rest)
      | _ => none
    | .sign "[" :: .sign "]" :: rest => some (.list [], rest)
    | .sign "[" :: rest => do
      let (first, rest) ← expression fuel rest
      let (more, rest) ← moreItems fuel rest
      match rest with
      | .sign "]" :: rest => some (.list (first :: more), rest)
      | _ => none
    | _ => none
/-- One expression, or a tuple of those that commas follow. -/
def items : Nat → List Token → Option (Expr × List Token)
  | 0, _ => none
  | fuel + 1, tokens => do
    let (first, rest) ← expression fuel tokens
    match rest with
    | .sign "," :: _ =>
      let (more, rest) ← moreItems fuel rest
      some (.tuple (first :: more), rest)
    | rest => some (first, rest)
/-- The expressions after commas; the last comma may stand alone. -/
def moreItems : Nat → List Token → Option (List Expr × List Token)
  | 0, _ => none
  | fuel + 1, .sign "," :: rest =>
    match rest with
    | [] | .newline :: _ | .sign ")" :: _ | .sign "]" :: _ => some ([], rest)
    | rest => do
      let (e, rest) ← expression fuel rest
      let (more, rest) ← moreItems fuel rest
      some (e :: more, rest)
  | _ + 1, rest => some ([], rest)
/-- Attributes, subscripts and calls after an expression. -/
def trailers : Nat → Expr → List Token → Option (Expr × List Token)
  | 0, _, _ => none
  | fuel + 1, e, tokens =>
    match tokens with
    | .sign "." :: .name text :: rest =>
      if isKeyword text then none else trailers fuel (.attribute e text) rest
    | .sign "[" :: rest => do
      let (index, rest) ← items fuel rest
      match rest with
      | .sign "]" :: rest => trailers fuel (.subscript e index) rest
      | _ => none
    | .sign "(" :: rest => do
      let (arguments, named, rest) ← callArguments fuel rest
      trailers fuel (.call e arguments named) rest
    | tokens => some (e, tokens)
/-- The arguments of a call up to its end, those by position first. -/
def callArguments : Nat → List Token → Option (List Expr × List (String × Expr) × List Token)
  | 0, _ => none
  | fuel + 1, tokens =>
    match tokens with
    | .sign ")" :: rest => some ([], [], rest)
    | .name key :: .sign "=" :: rest => do
      if isKeyword key then none
      let (e, rest) ← expression fuel rest
      let (arguments, named, rest) ← nextArguments fuel rest
      if arguments.isEmpty then some ([], (key, e) :: named, rest) else none
    | tokens => do
      let (e, rest) ← expression fuel tokens
      let (arguments, named, rest) ← nextArguments fuel rest
      some (e :: arguments, named, rest)
/-- What follows an argument: the end of the call, or a comma and further arguments. -/
def nextArguments : Nat → List Token → Option (List Expr × List (String × Expr) × List Token)
  | 0, _ => none
  | fuel + 1, tokens =>
    match tokens with
    | .sign ")" :: rest => some ([], [], rest)
    | .sign "," :: rest => callArguments fuel rest
    | _ => none
end

/-- The expression that fills tokens, line ends after it apart. -/
def whole (tokens : List Token) : Option Expr :=
  match items (16 * tokens.length + 16) tokens with
  | some (e, rest) => if rest.all (· == .newline) then some e else none
  | none => none

/-- Whether a text begins with blanks and has something behind them. -/
def isIndented (text : List Char) : Bool :=
  let blank (c : Char) : Bool := c = ' ' || c = '\t'
  text.head?.any blank &&
    match text.dropWhile blank with
    | [] => true
    | c :: _ => c ≠ '\n' && c ≠ '\r' && c ≠ '#'

end Reading

/-- The expression that a text is. -/
def Expr.read (text : String) : Outcome Expr :=
  if Reading.isIndented text.toList then .error .indented
  else
    match (Token.scan text.toList).bind Reading.whole with
    | some e => .ok e
    | none => .error .notAnExpression

end SchemaCodegen.Python
