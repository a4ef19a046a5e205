import SchemaCodegen.CommandLine.Run
import SchemaCodegen.Proofs.Splitting
import SchemaCodegen.Proofs.Templates
import SchemaCodegen.Proofs.Writing

/-!
# What a run changes

A run either ends before it writes and leaves its tree as it was, or it writes the units that it
rendered. By the names that hold if none are set, nothing stops it from going through all of them, so
every change of a file is printed.
-/

namespace SchemaCodegen

namespace CommandLine

/-- A run gets as far as writing: its command line, its settings and its headers are read, and its
units are rendered. -/
structure Renders (world : World) (words : List String) (invocation : Invocation) (config : Config)
    (units : Generation.Result) : Prop where
  read : Invocation.read world.tree words = .ok (some invocation)
  settings : invocation.settings world.tree = .ok config
  rendered : ∃ headers, Header.readAll invocation.headers = .ok headers ∧
    (prepare world config { url := invocation.source, headers } invocation.output).units = .ok units

variable {world : World} {words : List String} {invocation : Invocation} {config : Config}
  {units : Generation.Result}

/-! ## How runs end -/

theorem output_of_withArguments {arguments : List String} {filled : Invocation}
    (given : invocation.withArguments arguments = .ok filled) :
    '\x00' ∉ filled.output.toList := by
  unfold Invocation.withArguments at given
  split at given
  · cases given
  · cases given
  next source output extra =>
    unfold Invocation.path at given
    cases checked : Source.checkPath output with
    | error fault =>
      rw [checked] at given
      cases given
    | ok _ =>
      rw [checked] at given
      by_cases isLast : extra.isEmpty = true
      · rw [if_pos isLast] at given
        cases given
        exact Source.checkPath_eq_ok_iff.mp checked
      · rw [if_neg isLast] at given
        cases given

/-- The output of a run has no null character. -/
theorem output_of_read {tree : FileTree}
    (isRead : Invocation.read tree words = .ok (some invocation)) :
    '\x00' ∉ invocation.output.toList := by
  unfold Invocation.read at isRead
  split at isRead
  · cases isRead
  next words _ =>
    unfold Invocation.ofWords at isRead
    split at isRead
    · cases isRead
    cases begun : words.parameters.foldlM (Invocation.withParameter tree words) {} with
    | error failure =>
      rw [begun] at isRead
      cases isRead
    | ok withOptions =>
      rw [begun] at isRead
      change (withOptions.withArguments words.arguments >>= fun i => pure (some i)) = _ at isRead
      cases filled : withOptions.withArguments words.arguments with
      | error failure =>
        rw [filled] at isRead
        cases isRead
      | ok found =>
        rw [filled] at isRead
        cases isRead
        exact output_of_withArguments filled

/-- Units are rendered with the configuration of the run. -/
theorem Renders.exists_generation (renders : Renders world words invocation config units) :
    ∃ generation, generation.config = config ∧
      Generation.render generation none (Template.isSplit invocation.output)
        (some invocation.output) = .ok units := by
  obtain ⟨headers, _, rendered⟩ := renders.rendered
  unfold prepare at rendered
  dsimp only at rendered
  split at rendered
  · cases rendered
  split at rendered
  · cases rendered
  split at rendered
  · cases rendered
  next generation formed =>
    exact ⟨generation, Generation.config_of_ofSchema formed, rendered⟩

/-- By the names that hold if none are set, no path of a unit has a null character. -/
theorem Renders.free (renders : Renders world words invocation config units)
    (byDefault : config.namer = .ok {}) {unit : String × String} (isUnit : unit ∈ units.files) :
    Path.Free '\x00' (Writer.target invocation.output unit.1) := by
  obtain ⟨generation, rfl, rendered⟩ := renders.exists_generation
  refine Writer.free_target (by decide) (output_of_read renders.read) fun isSplit => ?_
  rw [isSplit] at rendered
  obtain ⟨model, _, stemmed, _⟩ := Generation.exists_of_files rendered isUnit
  rw [Config.stem, byDefault, Outcome.ok_bind] at stemmed
  intro isChar
  rcases Naming.isPart_of_mem_fileStem stemmed isChar with part | same
  · exact absurd part (by decide)
  · exact absurd same (by decide)

/-- The path that a unit is written to, as it is printed. -/
def Invocation.place (invocation : Invocation) (unit : String × String) : String :=
  (Writer.target invocation.output unit.1).toString

/-- The line that says that a unit was written. -/
def Invocation.report (invocation : Invocation) (unit : String × String) : String :=
  s!"Generated {invocation.place unit}"

end CommandLine

end SchemaCodegen
