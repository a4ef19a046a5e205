import SchemaCodegen.Text.Printable

/-!
# Quoted text

A text is quoted by apostrophes, or by quotation marks if it holds an apostrophe and no quotation
mark. Inside, the chosen mark and the backslash follow a backslash, the tab and the line ends have
short escapes, and any other character that is not printable is written by its code point.
-/

namespace SchemaCodegen.Quoted

/-- The last `width` hexadecimal digits of a number, in small letters. -/
def hexDigits : Nat → Nat → List Char
  | 0, _ => []
  | width + 1, n => hexDigits width (n / 16) ++ [Nat.digitChar (n % 16)]

/-- A code point in the shortest of the three escapes that can hold it. -/
def escapeCodePoint (n : Nat) : List Char :=
  if n < 0x100 then '\\' :: 'x' :: hexDigits 2 n
  else if n < 0x10000 then '\\' :: 'u' :: hexDigits 4 n
  else '\\' :: 'U' :: hexDigits 8 n

/-- A character as it stands between marks `mark`. -/
def escape (mark c : Char) : List Char :=
  if c = mark || c = '\\' then ['\\', c]
  else if c = '\t' then ['\\', 't']
  else if c = '\n' then ['\\', 'n']
  else if c = '\r' then ['\\', 'r']
  else if Text.isPrintable c then [c]
  else escapeCodePoint c.toNat

/-- The mark that a text is quoted by. -/
def mark (text : List Char) : Char :=
  if text.contains '\'' && !text.contains '"' then '"' else '\''

/-- The text between marks, without them. -/
def body (text : List Char) : List Char := text.flatMap (escape (mark text))

/-- The text quoted. -/
def quote (text : List Char) : List Char := mark text :: (body text ++ [mark text])

/-- `quote` on strings. -/
def quoted (text : String) : String := String.ofList (quote text.toList)

theorem length_hexDigits (width n : Nat) : (hexDigits width n).length = width := by
  induction width generalizing n with
  | zero => rfl
  | succ width ih => simp [hexDigits, ih]

theorem quote_nil : quote [] = ['\'', '\''] := rfl

end SchemaCodegen.Quoted
