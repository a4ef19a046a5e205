import SchemaCodegen.Grammar
import SchemaCodegen.Python.Token

/-!
# Rules and marks

The names of the rules that refer to each other, and the phrases that are one token.
-/

namespace SchemaCodegen.Python

/-- The rules of the grammar of Python. -/
inductive Rule where
  /-- An expression. -/
  | expression
  /-- Expressions joined by `or` and `and`. -/
  | disjunction
  /-- A comparison, or its negation. -/
  | negation
  /-- What is compared. -/
  | operand
  /-- An operand with the signs in front of it. -/
  | factor
  /-- A name, a constant or a bracket, and what follows it. -/
  | primary
  /-- A name, a constant or a bracket. -/
  | atom
  /-- A function without a name. -/
  | lambda
  /-- What stands in place of one item: an expression that may be named, or a starred one. -/
  | item
  /-- `yield` and what it yields. -/
  | yielding
  /-- What an assignment can give a value to. -/
  | target
  /-- A target that may be starred. -/
  | starredTarget
  /-- One target alone, in parentheses or not. -/
  | single
  /-- What can be deleted. -/
  | deleted
  /-- A pattern of a case. -/
  | pattern
  /-- A pattern without alternatives. -/
  | closedPattern
  /-- A statement. -/
  | statement
  /-- The statements below a colon. -/
  | block
  /-- A whole text of statements. -/
  | program
  /-- The content of a replacement field, in parentheses. -/
  | field
  deriving DecidableEq, Repr

namespace Grammar

/-- A phrase of Python. -/
abbrev Piece := Phrase Token Rule

/-- A sign. -/
def sign (text : String) : Piece := .token (· == .sign text)

/-- A word with a meaning of its own. -/
def word (text : String) : Piece := .token (· == .name text)

/-- A name. -/
def name : Piece := .token fun
  | .name text => !isKeyword text
  | _ => false

/-- A number. -/
def number : Piece := .token fun
  | .number _ => true
  | _ => false

/-- An imaginary number. -/
def imaginary : Piece := .token fun
  | .number (.imaginary _) => true
  | _ => false

/-- A number on the real axis. -/
def real : Piece := .both (.notAhead imaginary) number

/-- A quoted text that is one of bytes, or is not. -/
def quotation (isBytes : Bool) : Piece := .token fun
  | .quoted kind _ => (kind == .bytes) == isBytes
  | .formatted _ => !isBytes
  | _ => false

/-- Quoted texts that follow each other; either all are of bytes or none is. -/
def quotations : Piece :=
  .either (.both (.some (quotation false)) (.notAhead (quotation true)))
    (.both (.some (quotation true)) (.notAhead (quotation false)))

/-- The comma. -/
def comma : Piece := sign ","

/-- The end of a line. -/
def newline : Piece := .token (· == .newline)

/-- The begin of a block. -/
def indent : Piece := .token (· == .indent)

/-- The end of a block. -/
def dedent : Piece := .token (· == .dedent)

/-- A phrase once or more, with commas between. A comma at the end is allowed. -/
def commaListed (phrase : Piece) : Piece := .listed comma phrase

/-- A phrase that may follow in a list that has begun: a comma, and further items. -/
def furtherItems (phrase : Piece) : Piece :=
  .optional (.both comma (.optional (commaListed phrase)))

/-- A phrase between two signs. -/
def between (opening : String) (phrase : Piece) (closing : String) : Piece :=
  .series [sign opening, phrase, sign closing]

end Grammar

end SchemaCodegen.Python
