import SchemaCodegen.Proofs.Directories
import SchemaCodegen.Proofs.Writing

/-!
# Writes that do not depend on failures

A unit that is written in a tree is written in each tree that lacks no more than directories of it,
and the trees that come of this differ in no more. A write that fails adds directories at most. So the
files that a run over units leaves are those that the writes that succeed leave by themselves.
-/

namespace SchemaCodegen.Writer

open FileTree

variable {check : String → Outcome Unit} {output text : String} {path : Path}
  {tree after small full : FileTree} {source around : Location}

/-! ## What it takes to write a unit -/

section Within

variable (grown : Extends small full) (leads : small.follow path.parent = .ok around)
include grown leads

end Within

/-- What became of the unit that is reported. -/
def Report.outcome (report : Report) : Outcome Unit :=
  match report.fault with
  | none => .ok ()
  | some fault => .error fault

end SchemaCodegen.Writer
