import SchemaCodegen.Python.Formatted
import SchemaCodegen.Python.Identifier
import SchemaCodegen.Python.Number
import SchemaCodegen.Text.IdentifierPart

/-!
# Python tokens

`Token.scan` divides a text into names, constants, signs and the tokens that stand for its layout:
the end of a line, and the begin and the end of an indented block. Inside brackets lines do not
count. A text is refused if a character has no place, a quoted text is not closed, brackets do not
match, or the indentation of a line fits no block.
-/

namespace SchemaCodegen.Python

/-- What a quoted text is. -/
inductive QuoteKind where
  | text
  | bytes
  deriving DecidableEq, Repr

/-- A token. -/
inductive Token where
  | name (text : String)
  | number (value : Literal)
  | quoted (kind : QuoteKind) (value : String)
  /-- A quoted text with replacement fields, and the expressions in them. -/
  | formatted (fields : List (List Char))
  | sign (text : String)
  | newline
  | indent
  | dedent
  deriving DecidableEq

namespace Token

/-- The signs, the longer before those they begin with. -/
def signs : List String :=
  ["**=", "//=", ">>=", "<<=", "...", "!=", "->", ":=", "**", "//", "<<", ">>", "<=", ">=", "==",
    "+=", "-=", "*=", "/=", "%=", "&=", "|=", "^=", "@=", "(", ")", "[", "]", "\x7b", "\x7d", ",",
    ":", ";", "+", "-", "*", "/", "|", "&", "<", ">", "=", ".", "%", "~", "^", "@"]

/-- The sign at the front of a text. -/
def sign? (text : List Char) : Option (String × List Char) :=
  signs.findSome? fun s =>
    if s.toList.isPrefixOf text then some (s, text.drop s.length) else none

/-! ## Quoted texts -/

/-- The letters that can stand before a quoted text, in small letters. -/
def marksBefore : List String := ["", "r", "u", "b", "f", "br", "rb", "fr", "rf"]

/-- The quoted text after the letters before it. -/
def quotedAfter (letters : List Char) (text : List Char) : Option (Token × List Char) :=
  match text with
  | [] => none
  | mark :: rest => do
    let isTriple := (triple mark).isPrefixOf text
    let (body, after) ← Quotation.closing mark isTriple (if isTriple then rest.drop 2 else rest)
    let raw := letters.contains 'r'
    if letters.contains 'f' then (Formatted.fields? raw body).map (.formatted ·, after)
    else
      let bytes := letters.contains 'b'
      if bytes && body.any (128 ≤ ·.toNat) then none
      else
        let value ← if raw then some body else Quotation.unescape bytes body.length body
        some (.quoted (if bytes then .bytes else .text) (String.ofList value), after)

/-- Whether a character opens a quoted text. -/
def isMark (c : Char) : Bool := c = '\'' || c = '"'

/-- A name, or a quoted text with letters before it. -/
def word (text : List Char) : Option (Token × List Char) :=
  let name := text.takeWhile Number.isNameLike
  let rest := text.dropWhile Number.isNameLike
  let letters := name.map Char.toLower
  if (rest.head?.any isMark) && marksBefore.contains (String.ofList letters) then
    quotedAfter letters rest
  else if Text.isIdentifier name then some (.name (String.ofList name), rest)
  else none

/-! ## Lines -/

/-- Where a line begins, measured twice: with tabs to every eighth place, and as one place. -/
structure Column where
  wide : Nat
  narrow : Nat
  deriving DecidableEq

/-- The blanks at the front of a line, and what follows. A form feed begins the count anew. Where a
line is continued after blanks, those before the first backslash decide. -/
def column (at_ : Column) (decided : Nat) : List Char → Option (Column × List Char)
  | ' ' :: rest => column ⟨at_.wide + 1, at_.narrow + 1⟩ decided rest
  | '\t' :: rest => column ⟨(at_.wide / 8 + 1) * 8, at_.narrow + 1⟩ decided rest
  | '\x0c' :: rest => column ⟨0, 0⟩ decided rest
  | '\\' :: '\n' :: rest =>
    if rest.isEmpty then none else column at_ (if decided = 0 then at_.wide else decided) rest
  | text => some (if decided = 0 then at_ else ⟨decided, decided⟩, text)

/-- What remains of the blocks around a line, and the tokens for those it begins or ends. Both
measures must agree on which it is. -/
def align (line : Column) : List Column → Option (List Column × List Token)
  | [] =>
    if line.wide = 0 then (if line.narrow = 0 then some ([], []) else none)
    else if line.narrow = 0 then none else some ([line], [.indent])
  | top :: outer =>
    if line.wide = top.wide then
      if line.narrow = top.narrow then some (top :: outer, []) else none
    else if top.wide < line.wide then
      if line.narrow ≤ top.narrow || 99 ≤ outer.length then none
      else some (line :: top :: outer, [.indent])
    else leave outer [.dedent]
where
  /-- Leaves blocks until one begins where the line does. -/
  leave : List Column → List Token → Option (List Column × List Token)
    | [], ended =>
      if line.wide = 0 && line.narrow = 0 then some ([], ended) else none
    | top :: outer, ended =>
      if line.wide = top.wide then
        if line.narrow = top.narrow then some (top :: outer, ended) else none
      else if line.wide < top.wide then leave outer (.dedent :: ended)
      else none

/-- The bracket that closes a bracket. -/
def closer? : String → Option String
  | "(" => some ")"
  | "[" => some "]"
  | "\x7b" => some "\x7d"
  | _ => none

/-- The open brackets after a sign. No more than two hundred may be open. -/
def bracket (s : String) (opened : List String) : Option (List String) :=
  match closer? s with
  | some c => if 200 ≤ opened.length then none else some (c :: opened)
  | none =>
    if s = ")" || s = "]" || s = "\x7d" then
      match opened with
      | c :: rest => if c = s then some rest else none
      | [] => none
    else some opened

/-- The tokens of a text, from the begin of a line or inside one. Each step reads a character,
which bounds their number by the first argument. -/
def lines : Nat → (isStart : Bool) → List Column → List String → List Char → Option (List Token)
  | 0, _, _, _, _ => none
  | _ + 1, _, blocks, opened, [] =>
    if opened.isEmpty then some (blocks.map fun _ => .dedent) else none
  | fuel + 1, true, blocks, opened, text => do
    let (at_, rest) ← column ⟨0, 0⟩ 0 text
    match rest with
    | [] => lines fuel false blocks opened []
    | '\n' :: rest => lines fuel true blocks opened rest
    | '#' :: rest => lines fuel true blocks opened ((rest.dropWhile (· ≠ '\n')).drop 1)
    | rest => do
      let (blocks, layout) ← align at_ blocks
      return layout ++ (← lines fuel false blocks opened rest)
  | fuel + 1, false, blocks, opened, c :: rest =>
    if c = ' ' || c = '\t' || c = '\x0c' then lines fuel false blocks opened rest
    else if c = '#' then lines fuel false blocks opened (rest.dropWhile (· ≠ '\n'))
    else if c = '\n' then
      if opened.isEmpty then do return .newline :: (← lines fuel true blocks opened rest)
      else lines fuel false blocks opened rest
    else if c = '\\' then
      match rest with
      | '\n' :: [] => none
      | '\n' :: rest => lines fuel false blocks opened rest
      | _ => none
    else if c.isDigit || (c = '.' && rest.head?.any Char.isDigit) then do
      let (value, rest) ← Number.read (c :: rest)
      return .number value :: (← lines fuel false blocks opened rest)
    else if isMark c then do
      let (token, rest) ← quotedAfter [] (c :: rest)
      return token :: (← lines fuel false blocks opened rest)
    else if Number.isNameLike c then do
      let (token, rest) ← word (c :: rest)
      return token :: (← lines fuel false blocks opened rest)
    else do
      let (s, rest) ← sign? (c :: rest)
      let opened ← bracket s opened
      return .sign s :: (← lines fuel false blocks opened rest)

/-- A text with a line feed for each line end, and one at its end. -/
def feeds (text : List Char) : List Char :=
  let rec go : List Char → List Char
    | '\r' :: '\n' :: rest => '\n' :: go rest
    | '\r' :: rest => '\n' :: go rest
    | c :: rest => c :: go rest
    | [] => []
  let text := go text
  if text.getLast? = some '\n' then text else text ++ ['\n']

/-- The tokens of a text. -/
def scan (text : List Char) : Option (List Token) :=
  let text := feeds text
  if text.contains '\x00' then none else lines (2 * text.length + 2) true [] [] text

end Token

end SchemaCodegen.Python
