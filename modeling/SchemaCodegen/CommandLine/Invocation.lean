import SchemaCodegen.CommandLine.Words
import SchemaCodegen.FileTree
import SchemaCodegen.Source

/-!
# Invocations

What a command line asks for. The values of options are checked in the order of their first use,
then the arguments; a wish for help goes before all of that.
-/

namespace SchemaCodegen.CommandLine

/-- Why a run ends without having written anything. -/
inductive Failure where
  /-- The command was used wrongly. -/
  | misuse (cause : Misuse)
  /-- A fault that is reported. -/
  | reported (fault : Fault)
  /-- A fault that nobody expected. -/
  | escaped (fault : Fault)
  deriving DecidableEq

/-- A fault as the reason why a run ends. -/
def Failure.ofFault (fault : Fault) : Failure :=
  if fault.isReported then .reported fault else .escaped fault

/-- What a run is to do. -/
structure Invocation where
  source : String := ""
  output : String := ""
  /-- Where the settings are. -/
  config : Option Path := none
  language : Option Language := none
  isPlain : Bool := false
  isBare : Bool := false
  checksReferences : Bool := false
  headers : List String := []
  isVerbose : Bool := false

namespace Invocation

/-- A path without the names that lead back, as far as there are names before them. -/
def collapsed (path : Path) : Path where
  root := path.root
  names := path.names.foldl
    (fun names name =>
      if name ≠ ".." then names ++ [name]
      else if names.isEmpty then (if path.root = "" then [name] else [])
      else if names.getLast? = some ".." then names ++ [name]
      else names.dropLast)
    []

/-- A path that may be looked at. -/
def path (text : String) : Except Failure Path :=
  match Source.checkPath text with
  | .error fault => .error (.escaped fault)
  | .ok () => .ok (.ofString text)

/-- Takes over the option of a command line. -/
def withParameter (tree : FileTree) (words : Words) (invocation : Invocation) :
    Parameter → Except Failure Invocation
  | .config => do
    let text := (words.value? .config).getD ""
    let config := collapsed (← path text)
    if tree.has config then return { invocation with config := some config }
    else throw (.misuse (.noConfig text))
  | .language =>
    let name := (words.value? .language).getD ""
    match Config.language? (.str name) with
    | some language => .ok { invocation with language := some language }
    | none => .error (.misuse (.noLanguage name))
  | .plain => .ok { invocation with isPlain := true }
  | .noSerialization => .ok { invocation with isBare := true }
  | .checkReferences => .ok { invocation with checksReferences := true }
  | .header => .ok { invocation with headers := words.values .header }
  | .verbose => .ok { invocation with isVerbose := true }
  | .help => .ok invocation

/-- Takes over the arguments of a command line. -/
def withArguments (invocation : Invocation) : List String → Except Failure Invocation
  | [] => .error (.misuse (.missing .source))
  | [_] => .error (.misuse (.missing .output))
  | source :: output :: extra => do
    let _ ← path output
    if extra.isEmpty then return { invocation with source, output }
    else throw (.misuse (.extra extra))

/-- What the words of a command line ask for, or none if they ask for help. -/
def ofWords (tree : FileTree) (words : Words) : Except Failure (Option Invocation) :=
  if words.has .help then .ok none
  else do
    let invocation ← words.parameters.foldlM (withParameter tree words) {}
    return some (← invocation.withArguments words.arguments)

/-- What a command line asks for, or none if it asks for help. -/
def read (tree : FileTree) (words : List String) : Except Failure (Option Invocation) :=
  match Words.ofList words with
  | .error misuse => .error (.misuse misuse)
  | .ok words => ofWords tree words

end Invocation

end SchemaCodegen.CommandLine
