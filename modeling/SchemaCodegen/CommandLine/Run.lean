import SchemaCodegen.CommandLine.Invocation
import SchemaCodegen.Rendering
import SchemaCodegen.Writer

/-!
# Runs

A run of the command as a function of what it finds: the words of its command line, a tree of files,
and whoever answers requests. `run` says what is printed, which files there are afterwards, and with
which code the run ends.
-/

namespace SchemaCodegen.CommandLine

/-- What a run prints and leaves behind. -/
structure Result where
  /-- Zero if all went well. -/
  code : Nat := 0
  /-- The lines of the output. -/
  printed : List String := []
  /-- The lines of remarks and faults. -/
  noted : List String := []
  tree : FileTree
  /-- The fault that nobody expected. -/
  escaped : Option Fault := none
  requests : List Request := []

/-- The result of a run that fails before it writes. -/
def Failure.result (tree : FileTree) (noted : List String) (requests : List Request) :
    Failure → Result
  | .misuse cause => { code := 2, noted := noted ++ cause.lines, tree, requests }
  | .reported fault =>
    { code := 1, noted := noted ++ [s!"Error: {fault.message}"], tree, requests }
  | .escaped fault => { code := 1, noted, tree, escaped := some fault, requests }

/-- The configuration in a file. -/
def configAt (tree : FileTree) (path : Path) : Outcome Config :=
  match tree.read path with
  | .error cause => .error (.system cause)
  | .ok content => do
    match Json.parse (← Source.decode content) with
    | .ok value => Config.ofJson value
    | .error (.tooManyDigits count) => .error (.tooManyDigits (.tooManyDigits count))
    | .error .tooDeep => .error .tooDeep
    | .error cause => .error (.settingsNotJson cause)

/-- A configuration with what the command line says otherwise. -/
def Invocation.adjust (invocation : Invocation) (config : Config) : Config :=
  { config with
    language := invocation.language.getD config.language
    unions := if invocation.isPlain then .typed false else config.unions
    serialization := if invocation.isBare then .typed false else config.serialization
    checkReferences := if invocation.checksReferences then .typed true else config.checkReferences }

/-- The configuration of a run. -/
def Invocation.settings (invocation : Invocation) (tree : FileTree) : Outcome Config := do
  match invocation.config with
  | none => return invocation.adjust {}
  | some path => return invocation.adjust (← configAt tree path)

/-- The units of a run, and what is noted while they are made. -/
structure Preparation where
  remarks : List Remark
  units : Outcome Generation.Result

/-- Loads the source, forms the models and renders them. What is noted on the way to a failure
stays. -/
def prepare (world : World) (config : Config) (request : Request) (output : String) :
    Preparation :=
  let remarks := Source.remarks request
  match Source.load world request with
  | .error fault => ⟨remarks, .error fault⟩
  | .ok document =>
    let remarks := remarks ++ Document.remarks config document
    match Schema.ofDocument config document with
    | .error fault => ⟨remarks, .error fault⟩
    | .ok schema =>
      let remarks := remarks ++ Generation.schemaRemarks config schema
      match Generation.ofSchema (Path.ofString output).stem config schema with
      | .error fault => ⟨remarks, .error fault⟩
      | .ok generation =>
        let isSplit := Template.isSplit output
        ⟨remarks ++ generation.remarks isSplit output, generation.render none isSplit output⟩

/-- What is printed of a unit that was written. -/
def generated (report : Writer.Report) : Option String :=
  if report.isOk then some s!"Generated {report.path.toString}" else none

/-- What is noted of a unit that was not written. -/
def failed (report : Writer.Report) : Option String :=
  report.fault.map fun fault => s!"Failed {report.path.toString}: {fault.message}"

/-- What is noted of a model that could not be rendered. -/
def unrendered (fault : String × Fault) : String := s!"Error: {fault.1}: {fault.2.message}"

/-- Writes the units of a run. -/
def finish (world : World) (config : Config) (invocation : Invocation) (noted : List String)
    (requests : List Request) (units : Generation.Result) : Result :=
  let noted := noted ++ units.faults.map unrendered
  match Writer.writeAll config.language.check invocation.output world.tree units.files with
  | (tree, .error fault) => (Failure.escaped fault).result tree noted requests
  | (tree, .ok reports) =>
    { code := if units.faults.isEmpty && reports.all (·.isOk) then 0 else 1
      printed := reports.filterMap generated
      noted := noted ++ Remark.shown invocation.isVerbose (reports.map Writer.remark) ++
        reports.filterMap failed
      tree
      requests }

/-- Does what a command line asks for with a given configuration. -/
def generate (world : World) (config : Config) (invocation : Invocation) : Result :=
  match Header.readAll invocation.headers with
  | .error fault => (Failure.misuse (.badHeader fault.message)).result world.tree [] []
  | .ok headers =>
    let request : Request := { url := invocation.source, headers }
    let requests := Source.requests request
    let preparation := prepare world config request invocation.output
    let noted := Remark.shown invocation.isVerbose preparation.remarks
    match preparation.units with
    | .error fault => (Failure.ofFault fault).result world.tree noted requests
    | .ok units => finish world config invocation noted requests units

/-- A run of the command. -/
def run (world : World) (words : List String) : Result :=
  match Invocation.read world.tree words with
  | .error failure => failure.result world.tree [] []
  | .ok none => { printed := Usage.help, tree := world.tree }
  | .ok (some invocation) =>
    match invocation.settings world.tree with
    | .error fault => (Failure.escaped fault).result world.tree [] []
    | .ok config => generate world config invocation

end SchemaCodegen.CommandLine
