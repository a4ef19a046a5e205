import SchemaCodegen.Fault
import SchemaCodegen.Path

/-!
# File trees

Files and directories below the one that a run works in. A location is a list of names from there;
one that begins with `..` lies outside, and one that begins with `/` counts from the root. Paths are
followed name by name, as the file system does.
-/

namespace SchemaCodegen

/-- A place in a tree. -/
abbrev Location := List String

/-- What is at a location. -/
inductive Entry where
  | file (content : ByteArray)
  | directory

/-- Files are compared by their bytes. -/
instance : DecidableEq Entry
  | .file a, .file b => decidable_of_iff (a.data = b.data) (by simp [ByteArray.ext_iff])
  | .directory, .directory => isTrue rfl
  | .file _, .directory | .directory, .file _ => isFalse nofun

/-- The entries of a tree. -/
structure FileTree where
  entries : List (Location × Entry) := []
  deriving DecidableEq

namespace FileTree

/-- What is at a location. Where a run works, and what lies around it, are directories. -/
def get? (tree : FileTree) (location : Location) : Option Entry :=
  if location.all (· == "..") || location == ["/"] then some .directory
  else (tree.entries.find? (·.1 == location)).map (·.2)

/-- Whether there is a directory at a location. -/
def isDirectory (tree : FileTree) (location : Location) : Bool :=
  tree.get? location == some .directory

/-- Puts an entry at a location. -/
def put (tree : FileTree) (location : Location) (entry : Entry) : FileTree where
  entries :=
    if tree.entries.any (·.1 == location) then
      tree.entries.map fun (l, e) => if l = location then (l, entry) else (l, e)
    else tree.entries ++ [(location, entry)]

/-- Takes away what is at a location. -/
def erase (tree : FileTree) (location : Location) : FileTree where
  entries := tree.entries.filter (·.1 ≠ location)

/-- Moves what is at one location to another, in place of what is there. -/
def move (tree : FileTree) (source target : Location) : FileTree :=
  match tree.get? source with
  | none => tree
  | some entry => (tree.erase source).put target entry

/-- The location around another. -/
def outward (location : Location) : Location :=
  if location = ["/"] then location
  else if location.isEmpty || location.getLast? = some ".." then location ++ [".."]
  else location.dropLast

/-- The most bytes of a name. -/
def maxName : Nat := 255

/-- The most bytes of a path. -/
def maxPath : Nat := 4095

/-- Whether a name is too long for an entry. -/
def isTooLong (name : String) : Bool := maxName < name.utf8ByteSize

/-- The directory that names lead to. -/
def walk (tree : FileTree) (location : Location) : List String → Except Refusal Location
  | [] => .ok location
  | name :: rest =>
    if name = ".." then walk tree (outward location) rest
    else if isTooLong name then .error .nameTooLong
    else
      match tree.get? (location ++ [name]) with
      | none => .error .noEntry
      | some (.file _) => .error .notDirectory
      | some .directory => walk tree (location ++ [name]) rest

/-- Where a path begins. -/
def origin (path : Path) : Location := if path.root = "" then [] else ["/"]

/-- The directory that a path leads to. -/
def follow (tree : FileTree) (path : Path) : Except Refusal Location :=
  if maxPath < path.toString.utf8ByteSize then .error .nameTooLong
  else tree.walk (origin path) path.names

/-- The location of a path whose last name need not be there. -/
def locate (tree : FileTree) (path : Path) : Except Refusal Location :=
  if maxPath < path.toString.utf8ByteSize then .error .nameTooLong
  else
    match path.names.getLast? with
    | none => .ok (origin path)
    | some name =>
      match tree.walk (origin path) path.names.dropLast with
      | .error refusal => .error refusal
      | .ok location =>
        if name = ".." then .ok (outward location)
        else if isTooLong name then .error .nameTooLong
        else .ok (location ++ [name])

/-- A refusal about a path. -/
def about (path : Path) (refusal : Refusal) : SystemFault := ⟨refusal, some path.toString⟩

/-- The content of a file. -/
def read (tree : FileTree) (path : Path) : Except SystemFault ByteArray :=
  match tree.locate path with
  | .error refusal => .error (about path refusal)
  | .ok location =>
    match tree.get? location with
    | none => .error (about path .noEntry)
    | some .directory => .error (about path .isDirectory)
    | some (.file content) => .ok content

/-- Whether there is anything at a path. -/
def has (tree : FileTree) (path : Path) : Bool :=
  match tree.locate path with
  | .error _ => false
  | .ok location => (tree.get? location).isSome

/-! ## Directories -/

/-- A new directory in one that is there. -/
def makeDirectory (tree : FileTree) (path : Path) : Except Refusal FileTree :=
  match tree.locate path with
  | .error refusal => .error refusal
  | .ok location =>
    if (tree.get? location).isSome then .error .exists else .ok (tree.put location .directory)

/-- Whether a path leads to a directory. -/
def leadsToDirectory (tree : FileTree) (path : Path) : Bool :=
  match tree.locate path with
  | .error _ => false
  | .ok location => tree.isDirectory location

/-- What remains of a refusal to make a directory: nothing, if it is there already. -/
def tolerate (tree : FileTree) (path : Path) (refusal : Refusal) :
    FileTree × Except SystemFault Unit :=
  if tree.leadsToDirectory path then (tree, .ok ()) else (tree, .error (about path refusal))

/-- A directory with all those on the way to it. Those made before a refusal stay. -/
def makeDirectories (tree : FileTree) (path : Path) : FileTree × Except SystemFault Unit :=
  match tree.makeDirectory path with
  | .ok tree => (tree, .ok ())
  | .error .noEntry =>
    if _h : path.names = [] then (tree, .error (about path .noEntry))
    else
      match makeDirectories tree path.parent with
      | (tree, .error fault) => (tree, .error fault)
      | (tree, .ok ()) =>
        match tree.makeDirectory path with
        | .ok tree => (tree, .ok ())
        | .error refusal => tolerate tree path refusal
  | .error refusal => tolerate tree path refusal
termination_by path.names.length
decreasing_by
  simp only [Path.parent_names, List.length_dropLast]
  have := List.length_pos_iff.2 _h
  omega

end FileTree

end SchemaCodegen
