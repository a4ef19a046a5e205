import SchemaCodegen.Text.Pieces

/-!
# Wrapped text

A text is divided into lines of a given width between its words. Each line holds as many words as
fit; a word that is wider than a line has one of its own.
-/

namespace SchemaCodegen.Text

/-- The words after the first of a line: on this line as long as they fit, else on further lines. -/
def wrapFrom (width : Nat) (line : List Char) : List (List Char) → List (List Char)
  | [] => [line]
  | word :: rest =>
    if line.length + 1 + word.length ≤ width then wrapFrom width (line ++ ' ' :: word) rest
    else line :: wrapFrom width word rest

/-- The lines of a text. -/
def wrap (width : Nat) (text : String) : List String :=
  match (pieces ' ' text.toList).filter (· ≠ []) with
  | [] => []
  | word :: rest => (wrapFrom width word rest).map String.ofList

end SchemaCodegen.Text
