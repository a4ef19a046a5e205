import SchemaCodegen.Proofs.Outcome
import SchemaCodegen.Proofs.Paths
import SchemaCodegen.Proofs.Templates
import SchemaCodegen.Proofs.TreeChanges
import SchemaCodegen.Writer

/-!
# What writing changes

A unit that is written is where its path leads, and nothing else has changed apart from directories
that were made. A unit that is not written changes no file. So after some units, each file is as it
was or holds what was written to it last.
-/

namespace SchemaCodegen.Writer

open FileTree

variable {tree before middle after : FileTree} {path : Path} {text : String}

/-! ## Writes -/

/-- A unit that was written: to which path, where that leads, and the text. -/
structure Write where
  path : Path
  location : Location
  text : String

/-- The last write to a location. -/
def lastAt (writes : List Write) (location : Location) : Option Write :=
  (writes.filter (·.location = location)).getLast?

theorem lastAt_append (first second : List Write) (location : Location) :
    lastAt (first ++ second) location = (lastAt second location).or (lastAt first location) := by
  unfold lastAt
  rw [List.filter_append, List.getLast?_append]

theorem mem_of_lastAt {writes : List Write} {location : Location} {write : Write}
    (isLast : lastAt writes location = some write) :
    write ∈ writes ∧ write.location = location := by
  have isOne := List.mem_filter.mp (List.mem_of_getLast? isLast)
  exact ⟨isOne.1, of_decide_eq_true isOne.2⟩

/-- What writes leave: their paths lead to their locations, each location holds what was written to
it last, and elsewhere directories at most were made. -/
structure Wrote (before : FileTree) (writes : List Write) (after : FileTree) : Prop where
  directories : KeepsDirectories before after
  leads : ∀ write ∈ writes, after.locate write.path = .ok write.location
  written : ∀ location write, lastAt writes location = some write →
    after.get? location = some (.file write.text.toUTF8)
  elsewhere : ∀ location, lastAt writes location = none →
    Grown (before.get? location) (after.get? location)

theorem wrote_nothing (grown : Extends before after) : Wrote before [] after where
  directories := grown.keepsDirectories
  leads := fun _ isWrite => (List.not_mem_nil isWrite).elim
  written := nofun
  elsewhere := fun location _ => grown location

/-- Writes after others are writes together. -/
theorem Wrote.append {first second : List Write} (wrote : Wrote before first middle)
    (more : Wrote middle second after) : Wrote before (first ++ second) after where
  directories := fun location isDirectory =>
    more.directories location (wrote.directories location isDirectory)
  leads := by
    intro write isWrite
    rcases List.mem_append.mp isWrite with isFirst | isSecond
    · exact locate_of_keeps more.directories (wrote.leads write isFirst)
    · exact more.leads write isSecond
  written := by
    intro location write isLast
    rw [lastAt_append] at isLast
    cases later : lastAt second location with
    | some found =>
      rw [later, Option.some_or] at isLast
      cases isLast
      exact more.written location write later
    | none =>
      rw [later, Option.none_or] at isLast
      exact (more.elsewhere location later).of_some (wrote.written location write isLast)
  elsewhere := by
    intro location isNone
    rw [lastAt_append, Option.or_eq_none_iff] at isNone
    exact (wrote.elsewhere location isNone.2).trans (more.elsewhere location isNone.1)

/-- What was written is still there, or what was written to the same location later. -/
theorem Wrote.holds {first later : List Write} {write : Write}
    (wrote : Wrote before (first ++ write :: later) after) :
    ∃ last ∈ write :: later, last.location = write.location ∧
      after.get? write.location = some (.file last.text.toUTF8) := by
  have isSome : (lastAt (write :: later) write.location).isSome = true := by
    unfold lastAt
    rw [List.filter_cons_of_pos (by simp), List.getLast?_isSome]
    exact List.cons_ne_nil _ _
  obtain ⟨last, isLast⟩ := Option.isSome_iff_exists.mp isSome
  have isLastOfAll : lastAt (first ++ write :: later) write.location = some last := by
    rw [lastAt_append, isLast, Option.some_or]
  exact ⟨last, (mem_of_lastAt isLast).1, (mem_of_lastAt isLast).2,
    wrote.written _ last isLastOfAll⟩

/-! ## One unit -/

/-- What an attempt to write a unit leaves, by its outcome. -/
inductive Leaves (before : FileTree) (path : Path) (text : String) (after : FileTree) :
    Outcome Unit → Prop
  | written {location : Location} (wrote : Wrote before [⟨path, location, text⟩] after) :
    Leaves before path text after (.ok ())
  | failed {fault : Fault} (grown : Extends before after) :
    Leaves before path text after (.error fault)

theorem Leaves.after_extends {outcome : Outcome Unit} (grown : Extends before middle)
    (leaves : Leaves middle path text after outcome) : Leaves before path text after outcome := by
  cases leaves with
  | written wrote => exact .written ((wrote_nothing grown).append wrote)
  | failed more => exact .failed (grown.trans more)

theorem freeLocation_isFree {fuel number : Nat} {source : Location}
    (found : freeLocation tree path fuel number = .ok source) : tree.get? source = none := by
  induction fuel generalizing number with
  | zero => cases found
  | succ fuel ih =>
    unfold freeLocation at found
    split at found
    · cases found
    next location _ =>
      split at found
      next isNone =>
        cases found
        simpa using isNone
      next => exact ih found

/-- Whether a path ends in the name of an entry. -/
def NamesEntry (path : Path) : Prop := path.name ≠ "" ∧ path.name ≠ ".."

theorem replace_eq_ok {source : Location} : replace tree source path = .ok after ↔
    NamesEntry path ∧ ∃ target, tree.locate path = .ok target ∧
      tree.get? target ≠ some .directory ∧ after = tree.move source target := by
  unfold replace NamesEntry
  split
  next isBusy =>
    rw [Bool.or_eq_true, decide_eq_true_eq, decide_eq_true_eq] at isBusy
    refine iff_of_false nofun ?_
    rintro ⟨⟨notEmpty, notUp⟩, _⟩
    exact isBusy.elim notEmpty notUp
  next isNamed =>
    rw [Bool.or_eq_true, decide_eq_true_eq, decide_eq_true_eq, not_or] at isNamed
    rw [and_iff_right isNamed]
    cases tree.locate path with
    | error refusal => simp
    | ok target =>
      by_cases isThere : tree.get? target = some .directory
      · simp [isDirectory, isThere]
      · simp only [isDirectory, beq_iff_eq, isThere, if_false, Except.ok.injEq, exists_eq_left',
          ne_eq, not_false_eq_true, true_and]
        exact eq_comm

section Settling

variable {placed : FileTree} {source : Location} (isFree : tree.get? source = none)
  (laid : ∀ other, placed.get? other =
    if other = source then some (.file text.toUTF8) else tree.get? other)
include isFree laid

omit isFree in
theorem isLaid : placed.get? source = some (.file text.toUTF8) := by
  rw [laid, if_pos rfl]

theorem erase_extends : Extends tree (placed.erase source) := by
  intro other
  left
  rw [get?_erase (notDirectory_of_file (isLaid laid)), laid]
  by_cases isIt : other = source
  · rw [if_pos isIt, isIt, isFree]
  · rw [if_neg isIt, if_neg isIt]

/-- A temporary file takes the place of no directory and makes none. -/
theorem directory_laid_iff (other : Location) :
    placed.get? other = some .directory ↔ tree.get? other = some .directory := by
  rw [laid]
  by_cases isIt : other = source
  · rw [if_pos isIt, isIt, isFree]
    exact iff_of_false nofun nofun
  · rw [if_neg isIt]

theorem locate_laid_iff {target : Location} :
    placed.locate path = .ok target ↔ tree.locate path = .ok target where
  mp := locate_of_keeps fun other => (directory_laid_iff isFree laid other).mp
  mpr := locate_of_keeps fun other => (directory_laid_iff isFree laid other).mpr

/-- A temporary file that is moved to its target is nowhere else. -/
theorem get?_moved {target : Location} (noTarget : placed.get? target ≠ some .directory)
    (other : Location) : (placed.move source target).get? other =
      if other = target then some (.file text.toUTF8) else tree.get? other := by
  rw [get?_move (isLaid laid) noTarget, laid]
  by_cases isIt : other = source
  · rw [if_pos isIt, isIt, isFree]
  · rw [if_neg isIt, if_neg isIt]

theorem move_wrote {target : Location} (leads : placed.locate path = .ok target)
    (noTarget : placed.get? target ≠ some .directory) :
    Wrote tree [⟨path, target, text⟩] (placed.move source target) := by
  have onlyTarget := get?_moved isFree laid noTarget
  have kept : KeepsDirectories tree (placed.move source target) := by
    intro other isDirectory
    have notTarget : other ≠ target := by
      rintro rfl
      exact noTarget ((directory_laid_iff isFree laid _).mpr isDirectory)
    rw [onlyTarget, if_neg notTarget, isDirectory]
  have leadsBefore := (locate_laid_iff isFree laid).mp leads
  constructor
  case directories => exact kept
  case leads =>
    intro write isWrite
    rw [List.mem_singleton.mp isWrite]
    exact locate_of_keeps kept leadsBefore
  case written =>
    intro other write isLast
    obtain ⟨isWrite, isAt⟩ := mem_of_lastAt isLast
    rw [List.mem_singleton.mp isWrite] at isAt ⊢
    rw [onlyTarget, if_pos isAt.symm]
  case elsewhere =>
    intro other isNone
    have notTarget : other ≠ target := by
      rintro rfl
      simp [lastAt] at isNone
    rw [onlyTarget, if_neg notTarget]
    exact .inl rfl

/-- A unit in a temporary file is settled: in place of its target, or it is taken away. -/
theorem settle_leaves (check : String → Outcome Unit) :
    Leaves tree path text (settle check placed source path text).1
      (settle check placed source path text).2 := by
  unfold settle
  split
  · exact .failed (erase_extends isFree laid)
  split
  · exact .failed (erase_extends isFree laid)
  next replaced =>
    obtain ⟨_, target, leads, noTarget, rfl⟩ := replace_eq_ok.mp replaced
    exact .written (move_wrote isFree laid leads noTarget)

end Settling

theorem place_leaves (check : String → Outcome Unit) (tree : FileTree) (path : Path)
    (text : String) :
    Leaves tree path text (place check tree path text).1 (place check tree path text).2 := by
  unfold place
  split
  · exact .failed (.refl tree)
  split
  · exact .failed (.refl tree)
  next source found =>
    have isFree := freeLocation_isFree found
    exact settle_leaves isFree (get?_put (notDirectory_of_free isFree) _) check

/-- A unit is where its path leads if it was written, and no file has changed otherwise. -/
theorem write_leaves (check : String → Outcome Unit) (tree : FileTree) (path : Path)
    (text : String) :
    Leaves tree path text (write check tree path text).1 (write check tree path text).2 := by
  have grown := makeDirectories_extends tree path.parent
  unfold write
  split
  · exact .failed (.refl tree)
  split
  next middle fault made =>
    rw [made] at grown
    exact .failed grown
  next middle made =>
    rw [made] at grown
    exact (place_leaves check middle path text).after_extends grown

/-! ## Many units -/

/-- What became of units one by one: which were written, and to which locations. -/
inductive Reported (output : String) : List (String × String) → List Report → List Write → Prop
  | nothing : Reported output [] [] []
  | written {stem text : String} {location : Location} {units : List (String × String)}
      {reports : List Report} {writes : List Write} (rest : Reported output units reports writes) :
    Reported output ((stem, text) :: units) ({ path := target output stem } :: reports)
      (⟨target output stem, location, text⟩ :: writes)
  | failed {stem text : String} {fault : Fault} {units : List (String × String)}
      {reports : List Report} {writes : List Write} (rest : Reported output units reports writes) :
    Reported output ((stem, text) :: units)
      ({ path := target output stem, fault := some fault } :: reports) writes

/-- Puts a report in front of those of other units. -/
def reportFirst (report : Report) :
    FileTree × Outcome (List Report) → FileTree × Outcome (List Report)
  | (tree, .ok reports) => (tree, .ok (report :: reports))
  | (tree, .error fault) => (tree, .error fault)

theorem reportFirst_cases {report : Report} {further : FileTree × Outcome (List Report)}
    {outcome : Outcome (List Report)} (given : reportFirst report further = (after, outcome)) :
    ∃ later, further = (after, later) ∧
      ∀ all, outcome = .ok all → ∃ more, later = .ok more ∧ all = report :: more := by
  obtain ⟨tree, later⟩ := further
  cases later with
  | error fault =>
    cases given
    exact ⟨_, rfl, nofun⟩
  | ok more =>
    cases given
    refine ⟨_, rfl, ?_⟩
    intro all isAll
    cases isAll
    exact ⟨more, rfl, rfl⟩

theorem writeAll_cons (check : String → Outcome Unit) (output stem text : String) (tree : FileTree)
    (rest : List (String × String)) :
    writeAll check output tree ((stem, text) :: rest) =
      match write check tree (target output stem) text with
      | (middle, .ok ()) =>
        reportFirst { path := target output stem } (writeAll check output middle rest)
      | (middle, .error fault) =>
        if isOwn fault then
          reportFirst { path := target output stem, fault := some fault }
            (writeAll check output middle rest)
        else (middle, .error fault) := by
  rfl

/-- A run over units leaves what those do that were written before it ended, each of which is reported
as it is. It ends early only where it has no reports. -/
theorem writeAll_reached {check : String → Outcome Unit} {output : String}
    {units : List (String × String)} {outcome : Outcome (List Report)}
    (given : writeAll check output tree units = (after, outcome)) :
    ∃ done reports writes, done <+: units ∧ Wrote tree writes after ∧
      Reported output done reports writes ∧ ∀ all, outcome = .ok all → done = units ∧ reports = all := by
  -- each unit is written to the tree that those before it left
  induction units generalizing tree outcome with
  | nil =>
    cases given
    refine ⟨[], [], [], List.nil_prefix, wrote_nothing (.refl _), .nothing, ?_⟩
    intro all isAll
    cases isAll
    exact ⟨rfl, rfl⟩
  | cons unit rest ih =>
    obtain ⟨stem, text⟩ := unit
    have leaves := write_leaves check tree (target output stem) text
    rw [writeAll_cons] at given
    split at given
    next middle isOk =>
      rw [isOk] at leaves
      obtain ⟨later, further, isWhole⟩ := reportFirst_cases given
      obtain ⟨done, reports, writes, isFirst, wroteRest, reported, whole⟩ := ih further
      cases leaves with
      | written wrote =>
        refine ⟨(stem, text) :: done, _, _, List.cons_prefix_cons.mpr ⟨rfl, isFirst⟩,
          wrote.append wroteRest, .written reported, ?_⟩
        intro all isAll
        obtain ⟨more, isMore, rfl⟩ := isWhole all isAll
        obtain ⟨rfl, rfl⟩ := whole more isMore
        exact ⟨rfl, rfl⟩
    next middle fault isError =>
      rw [isError] at leaves
      cases leaves with
      | failed grown =>
        split at given
        next isTheirs =>
          obtain ⟨later, further, isWhole⟩ := reportFirst_cases given
          obtain ⟨done, reports, writes, isFirst, wroteRest, reported, whole⟩ := ih further
          refine ⟨(stem, text) :: done, { path := target output stem, fault := some fault } :: reports,
            writes, List.cons_prefix_cons.mpr ⟨rfl, isFirst⟩,
            (wrote_nothing grown).append wroteRest, .failed reported, ?_⟩
          intro all isAll
          obtain ⟨more, isMore, rfl⟩ := isWhole all isAll
          obtain ⟨rfl, rfl⟩ := whole more isMore
          exact ⟨rfl, rfl⟩
        next =>
          cases given
          exact ⟨[], [], [], List.nil_prefix, wrote_nothing grown, .nothing, nofun⟩

/-- A write is that of a unit, and it is reported. -/
theorem Reported.exists_unit {output : String} {units : List (String × String)}
    {reports : List Report} {writes : List Write} (reported : Reported output units reports writes)
    {write : Write} (isWrite : write ∈ writes) :
    ∃ unit ∈ units, write.path = target output unit.1 ∧ write.text = unit.2 ∧
      { path := write.path } ∈ reports := by
  induction reported with
  | nothing => cases isWrite
  | written rest ih =>
    rcases List.mem_cons.mp isWrite with rfl | isLater
    · exact ⟨_, List.mem_cons_self .., rfl, rfl, List.mem_cons_self ..⟩
    · obtain ⟨unit, isUnit, path, text, isReport⟩ := ih isLater
      exact ⟨unit, List.mem_cons_of_mem _ isUnit, path, text, List.mem_cons_of_mem _ isReport⟩
  | failed rest ih =>
    obtain ⟨unit, isUnit, path, text, isReport⟩ := ih isWrite
    exact ⟨unit, List.mem_cons_of_mem _ isUnit, path, text, List.mem_cons_of_mem _ isReport⟩

theorem free_target {c : Char} (isNoSlash : c ≠ '/') {output stem : String}
    (freeOutput : c ∉ output.toList) (freeStem : Template.isSplit output = true → c ∉ stem.toList) :
    Path.Free c (target output stem) := by
  unfold target
  split
  next isSplit =>
    refine Path.free_ofString isNoSlash ?_
    rw [String.toList_ofList]
    exact Template.not_mem_fill (freeStem isSplit) freeOutput
  next => exact Path.free_ofString isNoSlash freeOutput

end SchemaCodegen.Writer
