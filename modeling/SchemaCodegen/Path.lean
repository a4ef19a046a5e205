import SchemaCodegen.Text.Pieces

/-!
# Paths

A path is a root and the names on the way from it. Empty names and names that stand for where one is
are left out; a name that leads back stays. An output template is a text in which every `*` stands
for the stem of a unit.
-/

namespace SchemaCodegen

/-- A path; the root is empty for a path from where one is. -/
structure Path where
  root : String := ""
  names : List String := []
  deriving DecidableEq, Repr, Inhabited

namespace Path

/-- Whether a piece is a name and not empty or where one is. -/
def isName (piece : List Char) : Bool := piece ≠ [] && piece ≠ ['.']

/-- The root of a path: two slashes at its front are a root of their own. -/
def rootOf (text : List Char) : String :=
  match (text.takeWhile (· = '/')).length with
  | 0 => ""
  | 2 => "//"
  | _ => "/"

/-- The path that a text is. -/
def ofString (text : String) : Path where
  root := rootOf text.toList
  names := ((Text.pieces '/' text.toList).filter isName).map String.ofList

/-- A path as text. -/
def toString (path : Path) : String :=
  if path.root = "" && path.names.isEmpty then "."
  else path.root ++ "/".intercalate path.names

/-- The last name, if there is one. -/
def name (path : Path) : String := path.names.getLast?.getD ""

/-- The path without its last name. -/
def parent (path : Path) : Path := { path with names := path.names.dropLast }

/-- A name without its ending, which begins at its last dot. A dot at either end of the name begins
none. -/
def stemOf (name : List Char) : List Char :=
  let ending := name.reverse.takeWhile (· ≠ '.')
  let before := name.length - ending.length
  if before ≤ 1 || ending.isEmpty then name else name.take (before - 1)

/-- The last name without its ending. -/
def stem (path : Path) : String := String.ofList (stemOf path.name.toList)

theorem parent_names (path : Path) : path.parent.names = path.names.dropLast := rfl

end Path

namespace Template

/-- The character that stands for a stem. -/
def wildcard : Char := '*'

/-- Whether a template asks for one file for each model. -/
def isSplit (template : String) : Bool := template.toList.contains wildcard

/-- A template with a stem at every wildcard. -/
def fill (stem : List Char) (template : List Char) : List Char :=
  template.flatMap fun c => if c = wildcard then stem else [c]

/-- The path of a unit. -/
def path (template stem : String) : Path :=
  .ofString (String.ofList (fill stem.toList template.toList))

end Template

end SchemaCodegen
