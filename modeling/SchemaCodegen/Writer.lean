import SchemaCodegen.FileTree
import SchemaCodegen.Python.Program
import SchemaCodegen.Remark
import SchemaCodegen.Settings.Config
import SchemaCodegen.Source

/-!
# Writing units

A unit is written to a temporary file beside its target, checked, and then put in place of the
target. Whatever fails on the way, the target stays as it was and the temporary file is gone; only
directories that were made on the way stay.
-/

namespace SchemaCodegen

/-- The check of a language: units in Python have to be programs. -/
def Language.check : Language → String → Outcome Unit
  | .dart, _ => .ok ()
  | .python, unit => Python.checkProgram unit

namespace Writer

/-! ## Temporary files -/

/-- How many digits tell the temporary files of a target apart. -/
def markDigits : Nat := 8

/-- A number with zeros in front of it. -/
def mark (number : Nat) : String :=
  let digits := (Nat.repr number).toList
  String.ofList (List.replicate (markDigits - digits.length) '0' ++ digits)

/-- The name of a temporary file for a target. -/
def temporaryName (target : String) (number : Nat) : String :=
  "." ++ target ++ "." ++ mark number ++ ".tmp"

/-- The path of a temporary file: beside its target. -/
def temporaryPath (path : Path) (number : Nat) : Path :=
  { path with names := path.names.dropLast ++ [temporaryName path.name number] }

/-- How many names are tried for a temporary file. -/
def attempts : Nat := 10000

/-- The first location for a temporary file that nothing is at, counting from `number`. The first
argument is how many are tried. -/
def freeLocation (tree : FileTree) (path : Path) : Nat → Nat → Except Refusal Location
  | 0, _ => .error .exists
  | fuel + 1, number =>
    match tree.locate (temporaryPath path number) with
    | .error refusal => .error refusal
    | .ok location =>
      if (tree.get? location).isNone then .ok location
      else freeLocation tree path fuel (number + 1)

/-- Where the temporary file for a target is laid down. -/
def temporary (tree : FileTree) (path : Path) : Except Refusal Location :=
  freeLocation tree path attempts 0

/-! ## One unit -/

/-- Moves a file to where a path leads. A directory cannot be replaced. -/
def replace (tree : FileTree) (source : Location) (path : Path) : Except Refusal FileTree :=
  if path.name = "" || path.name = ".." then .error .busy
  else
    match tree.locate path with
    | .error refusal => .error refusal
    | .ok target =>
      if tree.isDirectory target then .error .isDirectory else .ok (tree.move source target)

/-- Puts a temporary file in place of its target if its content passes the check, and takes it away
otherwise. -/
def settle (check : String → Outcome Unit) (tree : FileTree) (source : Location) (path : Path)
    (content : String) : FileTree × Outcome Unit :=
  match check content with
  | .error fault => (tree.erase source, .error fault)
  | .ok () =>
    match replace tree source path with
    | .error refusal => (tree.erase source, .error (.system ⟨refusal, none⟩))
    | .ok tree => (tree, .ok ())

/-- Lays a unit down in a temporary file beside its target, and settles it. -/
def place (check : String → Outcome Unit) (tree : FileTree) (path : Path) (content : String) :
    FileTree × Outcome Unit :=
  match Source.checkPath path.name with
  | .error fault => (tree, .error fault)
  | .ok () =>
    match temporary tree path with
    | .error refusal => (tree, .error (.system ⟨refusal, none⟩))
    | .ok source => settle check (tree.put source (.file content.toUTF8)) source path content

/-- Writes a unit: makes the directories on the way, and puts the unit in place. -/
def write (check : String → Outcome Unit) (tree : FileTree) (path : Path) (content : String) :
    FileTree × Outcome Unit :=
  match Source.checkPath path.parent.toString with
  | .error fault => (tree, .error fault)
  | .ok () =>
    match tree.makeDirectories path.parent with
    | (tree, .error fault) => (tree, .error (.system fault))
    | (tree, .ok ()) => place check tree path content

/-! ## Many units -/

/-- What became of a unit: where it was to be, and why it is not there. -/
structure Report where
  path : Path
  fault : Option Fault := none
  deriving DecidableEq

/-- Whether the unit was written. -/
def Report.isOk (report : Report) : Bool := report.fault.isNone

/-- The path of a unit: the output, with the stem of the unit if it is a template. -/
def target (output stem : String) : Path :=
  if Template.isSplit output then Template.path output stem else .ofString output

/-- Whether a fault concerns one unit alone. -/
def isOwn : Fault → Bool
  | .system _ | .refused _ => true
  | _ => false

/-- Writes units one after the other. A unit that cannot be written does not keep the others from
being so. -/
def writeAll (check : String → Outcome Unit) (output : String) :
    FileTree → List (String × String) → FileTree × Outcome (List Report)
  | tree, [] => (tree, .ok [])
  | tree, (stem, content) :: rest =>
    let path := target output stem
    let further (tree : FileTree) (report : Report) : FileTree × Outcome (List Report) :=
      match writeAll check output tree rest with
      | (tree, .ok reports) => (tree, .ok (report :: reports))
      | (tree, .error fault) => (tree, .error fault)
    match write check tree path content with
    | (tree, .ok ()) => further tree { path }
    | (tree, .error fault) =>
      if isOwn fault then further tree { path, fault := some fault } else (tree, .error fault)

/-- What is noted of a unit. -/
def remark (report : Report) : Remark :=
  match report.fault with
  | none => ⟨.info, .writing, s!"Wrote {report.path.toString}"⟩
  | some fault => ⟨.error, .writing, s!"Failed to write {report.path.toString}: {fault.message}"⟩

end Writer

end SchemaCodegen
