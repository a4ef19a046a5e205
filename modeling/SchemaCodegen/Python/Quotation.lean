import SchemaCodegen.Python.Literal
import SchemaCodegen.Python.Number

/-!
# Python quotations

Texts between marks: where they end, and what their escapes stand for.
-/

namespace SchemaCodegen.Python.Quotation

/-- A character from its code point, if it has one. -/
def charOf? (n : Nat) : Option Char := if n < 0x110000 then some (Json.Reader.single n) else none

/-- The value of exactly `count` hexadecimal digits and what follows. -/
def hexRun (count : Nat) (text : List Char) : Option (Nat × List Char) := do
  let ds := text.take count
  if ds.length < count then none
  let values ← ds.mapM Json.Reader.hexValue?
  some (values.foldl (fun n d => n * 16 + d) 0, text.drop count)

/-- An escape after its backslash: the characters it stands for and what follows. -/
def escape (bytes : Bool) : List Char → Option (List Char × List Char)
  | [] => none
  | c :: rest =>
    let octal (c : Char) : Bool := '0' ≤ c && c ≤ '7'
    match c with
    | '\n' => some ([], rest)
    | '\\' => some (['\\'], rest)
    | '\'' => some (['\''], rest)
    | '"' => some (['"'], rest)
    | 'a' => some (['\x07'], rest)
    | 'b' => some (['\x08'], rest)
    | 'f' => some (['\x0c'], rest)
    | 'n' => some (['\n'], rest)
    | 'r' => some (['\r'], rest)
    | 't' => some (['\t'], rest)
    | 'v' => some (['\x0b'], rest)
    | 'x' => do
      let (n, rest) ← hexRun 2 rest
      some ([← charOf? n], rest)
    | _ =>
      if octal c then
        let ds := ((c :: rest).take 3).takeWhile octal
        (charOf? (Number.valueOf 8 ds)).map fun ch => ([ch], (c :: rest).drop ds.length)
      else if bytes then some (['\\', c], rest)
      else if c = 'u' || c = 'U' then do
        let (n, rest) ← hexRun (if c = 'u' then 4 else 8) rest
        some ([← charOf? n], rest)
      else if c = 'N' then
        match rest with
        | '\x7b' :: more =>
          let named := more.takeWhile (· ≠ '\x7d')
          if named.isEmpty || named.length = more.length then none
          else some (['\ufffd'], more.drop (named.length + 1))
        | _ => none
      else some (['\\', c], rest)

/-- The value of a quoted text from what stands between its marks. The first argument bounds the
number of characters. A backslash at the end stands for itself. -/
def unescape (bytes : Bool) : Nat → List Char → Option (List Char)
  | 0, _ => some []
  | _, [] => some []
  | _ + 1, ['\\'] => some ['\\']
  | fuel + 1, '\\' :: rest => do
    let (cs, rest) ← escape bytes rest
    return cs ++ (← unescape bytes fuel rest)
  | fuel + 1, c :: rest => do return c :: (← unescape bytes fuel rest)

/-- What stands before the closing marks, and what follows them. A backslash takes the next
character with it, and only a text between triple marks goes beyond its line. -/
def closing (mark : Char) (isTriple : Bool) : List Char → Option (List Char × List Char)
  | [] => none
  | '\\' :: c :: rest =>
    (closing mark isTriple rest).map fun (body, after) => ('\\' :: c :: body, after)
  | c :: rest =>
    if isTriple then
      if (triple mark).isPrefixOf (c :: rest) then some ([], rest.drop 2)
      else (closing mark isTriple rest).map fun (body, after) => (c :: body, after)
    else if c = mark then some ([], rest)
    else if c = '\n' then none
    else (closing mark isTriple rest).map fun (body, after) => (c :: body, after)

end SchemaCodegen.Python.Quotation
