import SchemaCodegen.Python.Quotation

/-!
# Texts with replacement fields

A formatted text is literal text with fields in braces. A field holds an expression, which may be
followed by `=`, a conversion, and a format that can hold fields itself. `Formatted.fields?` finds the
expressions. Whether they are expressions is for the grammar to say; here they end where the
characters around them say so.
-/

namespace SchemaCodegen.Python.Formatted

/-- Whether a character is a brace. -/
def isBrace (c : Char) : Bool := c = '\x7b' || c = '\x7d'

/-- What the next character of literal text is. -/
inductive Place where
  /-- Text like any other. -/
  | plain
  /-- The second of two characters that belong together. -/
  | second
  /-- Part of the name of a character. -/
  | named
  deriving DecidableEq

/-- What follows an escape character. An escaped `N` needs a name in braces. -/
def escaped (rest : List Char) : Option Place :=
  match rest with
  | 'N' :: '\x7b' :: _ => some .named
  | 'N' :: _ => none
  | c :: _ => some (if isBrace c then .plain else .second)
  | [] => some .plain

/-- The literal text at the front, up to a field or its end. In the outermost text a brace that stands
twice is literal, and one that closes nothing is refused. -/
def literal (isRaw isOuter : Bool) : Place → List Char → Option (List Char × List Char)
  | _, [] => some ([], [])
  | place, c :: rest =>
    let take (place : Place) : Option (List Char × List Char) :=
      (literal isRaw isOuter place rest).map fun (l, r) => (c :: l, r)
    match place with
    | .second => take .plain
    | .named => take (if c = '\x7d' then .plain else .named)
    | .plain =>
      if c = '\\' && !isRaw then (escaped rest).bind take
      else if !isBrace c then take .plain
      else if isOuter && rest.head? = some c then take .second
      else if isOuter && c = '\x7d' then none
      else some ([], c :: rest)

/-- The bracket that closes a bracket. -/
def closer? : Char → Option Char
  | '(' => some ')'
  | '[' => some ']'
  | '\x7b' => some '\x7d'
  | _ => none

/-- Whether a character closes a bracket. -/
def isCloser (c : Char) : Bool := c = ')' || c = ']' || c = '\x7d'

/-- Whether a character ends an expression outside brackets. -/
def isEnd (c : Char) : Bool := c = '!' || c = ':' || c = '\x7d' || c = '='

/-- Whether a character begins a comparison that an equals sign completes. -/
def isComparing (c : Char) : Bool := c = '!' || c = '=' || c = '<' || c = '>'

/-- What is open where an expression is read: marks of a quoted text, of which there are one or three,
and brackets by what closes them. -/
structure Opened where
  marks : Option (Char × Bool) := none
  brackets : List Char := []

/-- The next state after a character and how many characters after it belong to it, or none if it
has no place; the characters that follow it are looked at. -/
def step (opened : Opened) (c : Char) (rest : List Char) : Option (Opened × Nat) :=
  let isTriple := rest.take 2 == [c, c]
  match opened.marks with
  | some (mark, needsThree) =>
    if c ≠ mark || (needsThree && !isTriple) then some (opened, 0)
    else some ({ opened with marks := none }, if needsThree then 2 else 0)
  | none =>
    if c = '\'' || c = '"' then
      some ({ opened with marks := some (c, isTriple) }, if isTriple then 2 else 0)
    else if c = '#' then none
    else
      match closer? c, opened.brackets with
      | some close, brackets =>
        if 200 ≤ brackets.length then none
        else some ({ opened with brackets := close :: brackets }, 0)
      | none, close :: brackets =>
        if c = close then some ({ opened with brackets }, 0)
        else if isCloser c then none
        else some (opened, 0)
      | none, [] =>
        if isComparing c && rest.head? = some '=' then some (opened, 1)
        else if isCloser c then none
        else some (opened, 0)

/-- Whether an expression ends before a character. -/
def endsBefore (opened : Opened) (c : Char) (rest : List Char) : Bool :=
  opened.marks.isNone && opened.brackets.isEmpty && isEnd c &&
    !(isComparing c && rest.head? = some '=')

/-- The expression of a field and what follows it. Quoted texts and brackets are passed over; a
backslash or a comment has no place. -/
def expression : (opened : Opened) → (taken : Nat) → List Char → Option (List Char × List Char)
  | _, _, [] => none
  | opened, taken + 1, c :: rest => (expression opened taken rest).map fun (e, r) => (c :: e, r)
  | opened, 0, c :: rest =>
    if c = '\\' then none
    else if endsBefore opened c rest then some ([], c :: rest)
    else do
      let (opened, taken) ← step opened c rest
      let (e, r) ← expression opened taken rest
      some (c :: e, r)

/-- Blanks that do not make an expression. -/
def isBlank (c : Char) : Bool := c = ' ' || c = '\t' || c = '\n' || c = '\x0c'

/-- What follows an equals sign after an expression, if there is one. -/
def afterEquals : List Char → List Char
  | '=' :: rest => rest.dropWhile fun c => isBlank c || c = '\r' || c = '\x0b'
  | rest => rest

/-- What follows a conversion, if there is one. -/
def afterConversion : List Char → Option (List Char)
  | '!' :: c :: rest => if c = 's' || c = 'r' || c = 'a' then some rest else none
  | ['!'] => none
  | rest => some rest

/-- How deeply fields can stand in formats. -/
def maxLevel : Nat := 2

/-- The expressions of the fields of a text at some level, and what follows it. The first number
bounds the number of fields. -/
def fieldsFrom (isRaw : Bool) : Nat → (level : Nat) → List Char →
    Option (List (List Char) × List Char)
  | 0, _, _ => none
  | fuel + 1, level, text => do
    let (before, rest) ← literal isRaw (level == 0) .plain text
    if !isRaw && (Quotation.unescape false before.length before).isNone then none
    match rest with
    | '\x7b' :: rest => do
      if maxLevel ≤ level then none
      let (code, rest) ← expression {} 0 rest
      if code.all isBlank then none
      let rest ← afterConversion (afterEquals rest)
      let (inner, rest) ← match rest with
        | ':' :: rest => fieldsFrom isRaw fuel (level + 1) rest
        | rest => some ([], rest)
      match rest with
      | '\x7d' :: rest => do
        let (more, rest) ← fieldsFrom isRaw fuel level rest
        some (code :: inner ++ more, rest)
      | _ => none
    | rest => some ([], rest)

/-- The expressions of the fields of a formatted text, if it is well formed. -/
def fields? (isRaw : Bool) (text : List Char) : Option (List (List Char)) :=
  (fieldsFrom isRaw (text.length + 1) 0 text).map (·.1)

end SchemaCodegen.Python.Formatted
