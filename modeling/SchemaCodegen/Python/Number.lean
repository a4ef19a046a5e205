import SchemaCodegen.Json.Reader
import SchemaCodegen.Python.Literal
import SchemaCodegen.Text.IdentifierPart

/-!
# Python numbers

A number at the front of a text: decimal, or in base two, eight or sixteen; with a point or an
exponent it is a double, and a `j` makes it imaginary. Single underscores may stand between digits.
A whole number other than zero does not begin with a zero, and no name follows a number directly,
unless it begins like one of the words that can follow an operand.
-/

namespace SchemaCodegen.Python.Number

/-- Whether a character can be part of a name, as far as one can tell without its properties. -/
def isNameLike (c : Char) : Bool := c.isAlphanum || c = '_' || 128 ≤ c.toNat

/-- The words that may follow a number without a blank, by their beginnings. -/
def followers : List String := ["and", "else", "for", "if", "in", "is", "or", "not"]

/-- Whether a number can end before the text. -/
def endsBefore (text : List Char) : Bool :=
  match text with
  | [] => true
  | c :: _ => !isNameLike c || followers.any (·.toList.isPrefixOf text)

/-- Digits with single underscores between them. An underscore that no digit follows is refused. -/
def digits (isOne : Char → Bool) : List Char → Option (List Char × List Char)
  | [] => some ([], [])
  | '_' :: d :: rest =>
    if isOne d then (digits isOne (d :: rest)) else none
  | c :: rest =>
    if isOne c then (digits isOne rest).map fun (ds, after) => (c :: ds, after)
    else if c = '_' then none
    else some ([], c :: rest)

/-- The digits of a base. -/
def isDigitOf (base : Nat) (c : Char) : Bool :=
  match Json.Reader.hexValue? c with
  | some n => n < base
  | none => false

/-- The number that digits of a base write. -/
def valueOf (base : Nat) (ds : List Char) : Nat :=
  ds.foldl (fun n d => n * base + (Json.Reader.hexValue? d).getD 0) 0

/-- The rest of a whole number of some base, after its mark. -/
def based (base : Nat) (text : List Char) : Option (Literal × List Char) := do
  let text := match text with
    | '_' :: rest => rest
    | text => text
  let first ← text.head?
  if !isDigitOf base first then none
  let (ds, rest) ← digits (isDigitOf base) text
  if endsBefore rest then some (.int (valueOf base ds), rest) else none

/-- An exponent at the front of a text: its value and what follows. A letter that no digit follows
is no exponent, and then the number has to end before it. -/
def power : List Char → Option (Option Int × List Char)
  | e :: rest =>
    if e = 'e' || e = 'E' then
      match rest with
      | '-' :: d :: more =>
        if d.isDigit then
          (digits Char.isDigit (d :: more)).map fun (ds, after) =>
            (some (-(valueOf 10 ds : Int)), after)
        else none
      | '+' :: d :: more =>
        if d.isDigit then
          (digits Char.isDigit (d :: more)).map fun (ds, after) =>
            (some (valueOf 10 ds : Int), after)
        else none
      | d :: more =>
        if d.isDigit then
          (digits Char.isDigit (d :: more)).map fun (ds, after) =>
            (some (valueOf 10 ds : Int), after)
        else if endsBefore (e :: rest) then some (none, e :: rest) else none
      | [] => none
    else some (none, e :: rest)
  | [] => some (none, [])

/-- The digits after a point and what follows; without a point there are none. -/
def places : List Char → Option (Option (List Char) × List Char)
  | '.' :: rest =>
    match rest with
    | d :: _ =>
      if d.isDigit then (digits Char.isDigit rest).map fun (ds, after) => (some ds, after)
      else some (some [], rest)
    | [] => some (some [], [])
  | text => some (none, text)

/-- A decimal number. -/
def decimal (text : List Char) : Option (Literal × List Char) := do
  let (whole, rest) ← digits Char.isDigit text
  let (fraction, rest) ← places rest
  let (exponent, rest) ← power rest
  let ds := whole ++ fraction.getD []
  let double := Double.ofDecimal false (valueOf 10 ds)
    (exponent.getD 0 - (fraction.getD []).length)
  match rest with
  | 'j' :: rest | 'J' :: rest => if endsBefore rest then some (.imaginary double, rest) else none
  | rest =>
    if !endsBefore rest then none
    else if fraction.isSome || exponent.isSome then some (.float double, rest)
    else if whole.head? = some '0' && whole.any (· ≠ '0') then none
    else if Json.Reader.maxDigits < whole.length then none
    else some (.int (valueOf 10 whole), rest)

/-- The number at the front of a text that begins with a digit, or with a point and a digit. -/
def read : List Char → Option (Literal × List Char)
  | '0' :: mark :: rest =>
    if mark = 'x' || mark = 'X' then based 16 rest
    else if mark = 'o' || mark = 'O' then based 8 rest
    else if mark = 'b' || mark = 'B' then based 2 rest
    else decimal ('0' :: mark :: rest)
  | text => decimal text

end SchemaCodegen.Python.Number
