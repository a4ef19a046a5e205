import SchemaCodegen.Number.Shortest
import SchemaCodegen.Text.Quoted

/-!
# Python literals

Constants and how they are written. A text is quoted on one line; a text that documents a class
stands between triple marks and keeps its line feeds.
-/

namespace SchemaCodegen.Python

/-- A constant. -/
inductive Literal where
  | none
  | bool (b : Bool)
  | int (n : Nat)
  | float (x : Double)
  | imaginary (x : Double)
  | text (s : String)
  | ellipsis
  deriving DecidableEq

/-- A double as a constant: an infinity is written as a number too large for the format. -/
def doubleText (x : Double) : String :=
  match x with
  | .infinite negative => if negative then "-1e309" else "1e309"
  | x => x.text

/-- A double without the zero after the point of a whole number. -/
def bareDouble (x : Double) : String :=
  let text := (doubleText x).toList
  if ['.', '0'].isSuffixOf text then String.ofList (text.take (text.length - 2))
  else String.ofList text

/-- A constant as it is written. -/
def Literal.written : Literal → String
  | .none => "None"
  | .bool b => if b then "True" else "False"
  | .int n => toString n
  | .float x => doubleText x
  | .imaginary x => bareDouble x ++ "j"
  | .text s => Quoted.quoted s
  | .ellipsis => "..."

/-- Whether a dot after the constant would be read as part of a number. -/
def Literal.needsSpace : Literal → Bool
  | .bool _ | .int _ => true
  | _ => false

/-! ## Texts between triple marks -/

/-- A character between triple marks: line feeds and tabs stand as they are. -/
def docEscape (c : Char) : List Char :=
  if c = '\n' || c = '\t' then [c]
  else if c = '\\' then ['\\', '\\']
  else if c = '\r' then ['\\', 'r']
  else if Text.isPrintable c then [c]
  else Quoted.escapeCodePoint c.toNat

/-- Whether three marks in a row stand in a text. -/
def hasTriple (mark : Char) : List Char → Bool
  | a :: b :: c :: rest => (a = mark && b = mark && c = mark) || hasTriple mark (b :: c :: rest)
  | _ => false

/-- Three marks. -/
def triple (mark : Char) : List Char := [mark, mark, mark]

/-- A text between triple marks: quotation marks, or apostrophes if the text holds three quotation
marks or ends in one. A text with both kinds of triple marks is quoted as on one line. -/
def tripleQuoted (text : List Char) : List Char :=
  let body := text.flatMap docEscape
  let marks := ['"', '\''].filter fun mark => !hasTriple mark body
  let between (mark : Char) (body : List Char) : List Char := triple mark ++ body ++ triple mark
  match marks with
  | [] => between (Quoted.mark text) (Quoted.body text)
  | mark :: others =>
    let last := body.getLast?
    match others with
    | other :: _ => between (if last = some mark then other else mark) body
    | [] =>
      if last = some mark then between mark (body.dropLast ++ ['\\', mark])
      else between mark body

end SchemaCodegen.Python
