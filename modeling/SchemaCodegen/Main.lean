import SchemaCodegen.CommandLine.Run

/-!
# The program

Looks up what a run asks about, lets `CommandLine.run` decide, and carries out what it decided. The
places that a run writes to are known only after it has formed its units, so the run is decided once
to learn them, and once more when it is known what is there. Addresses are not reached from here.
-/

namespace SchemaCodegen.Program

/-- A location as the system spells it. -/
def spelling : Location → String
  | "/" :: names => "/" ++ "/".intercalate names
  | names => "/".intercalate names

/-- What the system has at a location. -/
def lookUp (location : Location) : IO (Option Entry) := do
  try
    return some (.file (← IO.FS.readBinFile (spelling location)))
  catch error =>
    match error with
    | .inappropriateType .. => return some .directory
    | _ => return none

/-- Adds what the system has along some names. -/
def explore (tree : FileTree) (location : Location) : List String → IO FileTree
  | [] => return tree
  | ".." :: rest => explore tree (FileTree.outward location) rest
  | name :: rest => do
    let location := location ++ [name]
    match ← lookUp location with
    | none => return tree
    | some entry => explore (tree.put location entry) location rest

/-- Adds what the system has along a path. -/
def explorePath (tree : FileTree) (path : Path) : IO FileTree :=
  explore tree (FileTree.origin path) path.names

/-- Adds what the system has along the location of an entry. -/
def exploreEntry (tree : FileTree) : Location → IO FileTree
  | "/" :: names => explore tree ["/"] names
  | names => explore tree [] names

/-- The paths that a command line names to be read. -/
def readPaths (words : CommandLine.Words) : List Path :=
  words.arguments.map Path.ofString ++
    (words.values .config).map fun text => CommandLine.Invocation.collapsed (.ofString text)

/-- Makes an entry of a tree where the system has it otherwise. -/
def carryOut (before : FileTree) (entry : Location × Entry) : IO Unit := do
  if before.get? entry.1 == some entry.2 then return
  let place := spelling entry.1
  match entry.2 with
  | .directory => IO.FS.createDirAll place
  | .file content =>
    let temporary := place ++ ".tmp"
    IO.FS.writeBinFile temporary content
    IO.FS.rename temporary place

/-- Runs the command. -/
def execute (arguments : List String) : IO UInt32 := do
  let decide (tree : FileTree) : CommandLine.Result :=
    CommandLine.run ⟨tree, fun _ => .failure "addresses are not reached"⟩ arguments
  let paths := match CommandLine.Words.ofList arguments with
    | .ok words => readPaths words
    | .error _ => []
  let known ← paths.foldlM explorePath {}
  let known ← ((decide known).tree.entries.map (·.1)).foldlM exploreEntry known
  let result := decide known
  result.tree.entries.forM (carryOut known)
  let out ← IO.getStdout
  let notes ← IO.getStderr
  result.noted.forM notes.putStrLn
  result.printed.forM out.putStrLn
  result.escaped.forM fun fault => notes.putStrLn fault.message
  return UInt32.ofNat result.code

end SchemaCodegen.Program

/-- The command. -/
def main (arguments : List String) : IO UInt32 := SchemaCodegen.Program.execute arguments
