import SchemaCodegen.Proofs.Templates
import SchemaCodegen.Proofs.Writing
import Mathlib.Data.List.Nodup
import Mathlib.Logic.Function.Iterate

/-!
# Paths of different stems

A wildcard of a template stands in one of its names, and there the paths of two stems differ. All of
these paths have equally many names, so none lies around another. If no name leads back, a path leads
to the names that it has, so units of different stems are never written to one place.
-/

namespace SchemaCodegen

/-- What stands between marks is in one of the pieces. -/
theorem Text.exists_mem_pieces {mark c : Char} {text : List Char} (isChar : c ∈ text)
    (other : c ≠ mark) : ∃ piece ∈ pieces mark text, c ∈ piece := by
  rw [← intercalate_pieces mark text] at isChar
  rcases mem_of_mem_intercalate isChar with isMark | isInPiece
  · exact absurd isMark other
  · exact isInPiece

namespace Path

/-! ## Paths around others -/

theorem parent_iterate_names (steps : Nat) (path : Path) :
    (parent^[steps] path).names <+: path.names := by
  induction steps generalizing path with
  | zero => exact List.prefix_refl _
  | succ steps ih =>
    rw [Function.iterate_succ_apply]
    exact (ih path.parent).trans (List.dropLast_prefix _)

/-- A path around another has fewer names, or the same. -/
theorem names_eq_of_around {path other : Path} (long : other.names.length = path.names.length)
    {steps : Nat} (around : parent^[steps] path = other) : other.names = path.names := by
  have part := parent_iterate_names steps path
  rw [around] at part
  exact part.eq_of_length long

end Path

/-! ## Where names lead -/

namespace FileTree

variable {tree : FileTree} {source location : Location} {path : Path}

/-- A walk on which no name leads back ends at the names that it was made of. -/
theorem walk_eq_append {names : List String} (noBack : ".." ∉ names)
    (leads : tree.walk source names = .ok location) : location = source ++ names := by
  induction names generalizing source with
  | nil =>
    cases leads
    rw [List.append_nil]
  | cons name rest ih =>
    rw [List.mem_cons, not_or] at noBack
    unfold walk at leads
    rw [if_neg (Ne.symm noBack.1)] at leads
    split at leads
    · cases leads
    split at leads
    · cases leads
    · cases leads
    · rw [ih noBack.2 leads, List.append_assoc, List.singleton_append]

theorem locate_eq_append (noBack : ".." ∉ path.names) (leads : tree.locate path = .ok location) :
    location = origin path ++ path.names := by
  unfold locate at leads
  split at leads
  · cases leads
  split at leads
  next isEmpty =>
    cases leads
    rw [List.getLast?_eq_none_iff.mp isEmpty, List.append_nil]
  next name isLast =>
    have parted := List.dropLast_append_getLast? name isLast
    split at leads
    · cases leads
    next around walked =>
      have isAround := walk_eq_append (fun isBack => noBack (List.mem_of_mem_dropLast isBack)) walked
      have notBack : name ≠ ".." := by
        rintro rfl
        exact noBack (List.mem_of_getLast? isLast)
      rw [if_neg notBack] at leads
      split at leads
      · cases leads
      · cases leads
        rw [isAround, List.append_assoc, parted]

end FileTree

namespace Template

/-! ## Stems of units -/

/-- A stem as units have them: of lower-case letters, digits and underscores, and not empty. -/
structure IsStem (stem : String) : Prop where
  some_ : stem ≠ ""
  chars : ∀ c ∈ stem.toList, c.isLower = true ∨ c.isDigit = true ∨ c = '_'

theorem isStem_iff {stem : String} : IsStem stem ↔
    stem ≠ "" ∧ stem.toList.all (fun c => c.isLower || c.isDigit || c = '_') = true := by
  have same (c : Char) : (c.isLower || c.isDigit || c = '_') = true ↔
      c.isLower = true ∨ c.isDigit = true ∨ c = '_' := by
    rw [Bool.or_eq_true, Bool.or_eq_true, decide_eq_true_eq, or_assoc]
  rw [List.all_eq_true]
  constructor
  · exact fun ⟨some_, chars⟩ => ⟨some_, fun c isChar => (same c).mpr (chars c isChar)⟩
  · exact fun ⟨some_, chars⟩ => ⟨some_, fun c isChar => (same c).mp (chars c isChar)⟩

instance (stem : String) : Decidable (IsStem stem) := decidable_of_iff _ isStem_iff.symm

theorem IsStem.not_mem {stem : String} (isStem : IsStem stem) {c : Char}
    (other : ¬(c.isLower = true ∨ c.isDigit = true ∨ c = '_')) : c ∉ stem.toList :=
  fun isChar => other (isStem.chars c isChar)

theorem IsStem.isName {stem : String} (isStem : IsStem stem) : IsName stem where
  some_ := isStem.some_
  notHere := by
    rintro rfl
    exact absurd (List.mem_singleton_self '.') (isStem.not_mem (by decide))
  notBack := by
    rintro rfl
    exact absurd (List.mem_cons_self ..) (@IsStem.not_mem ".." isStem '.' (by decide))
  noSlash := isStem.not_mem (by decide)

/-! ## Paths of one template -/

section Split

variable {template : String} (wild : isSplit template = true)
include wild

/-- A wildcard is in one of the names. -/
theorem exists_wild_name : ∃ name ∈ (Path.ofString template).names, wildcard ∈ name.toList := by
  unfold isSplit at wild
  have noSlash : wildcard ≠ '/' := by decide
  obtain ⟨piece, isPiece, isWild⟩ := Text.exists_mem_pieces (List.contains_iff_mem.mp wild) noSlash
  refine ⟨String.ofList piece, List.mem_map.mpr ⟨piece, List.mem_filter.mpr ⟨isPiece, ?_⟩, rfl⟩, ?_⟩
  · have notEmpty : piece ≠ [] := List.ne_nil_of_mem isWild
    have notHere : piece ≠ ['.'] := by
      rintro rfl
      exact absurd (List.mem_singleton.mp isWild) (by decide)
    simp [Path.isName, notEmpty, notHere]
  · rwa [String.toList_ofList]

variable {stem other : String} (isName : IsName stem) (isOther : IsName other)
include isName isOther

/-- A stem is told by the names of its path. -/
theorem stem_eq_of_names (same : (path template stem).names = (path template other).names) :
    stem = other := by
  obtain ⟨name, isOne, isWild⟩ := exists_wild_name wild
  rw [path_eq isName, path_eq isOther] at same
  exact fillName_inj isWild (List.map_inj_left.mp same name isOne)

/-- The path of a stem is not around that of another. -/
theorem path_not_around (different : stem ≠ other) (steps : Nat) :
    Path.parent^[steps] (path template stem) ≠ path template other := by
  intro around
  have long : (path template other).names.length = (path template stem).names.length := by
    rw [path_eq isName, path_eq isOther, List.length_map, List.length_map]
  exact different (stem_eq_of_names wild isName isOther (Path.names_eq_of_around long around).symm)

end Split

/-- A name leads back with a stem in it only if it is the way back in the template. -/
theorem noBack_path {template stem : String} (isName : IsName stem)
    (noBack : ".." ∉ (Path.ofString template).names) : ".." ∉ (path template stem).names := by
  rw [path_eq isName]
  intro isBack
  obtain ⟨name, isOne, filled⟩ := List.mem_map.mp isBack
  have isDots : name.toList = ['.', '.'] := by
    rw [← fill_eq_dots_iff isName (List.prefix_refl _)]
    rw [← String.toList_inj, fillName, String.toList_ofList] at filled
    exact filled
  have isWayBack : name = ".." := String.toList_inj.mp isDots
  exact noBack (isWayBack ▸ isOne)

end Template

namespace Writer

open FileTree Template

/-! ## Runs over units -/

theorem target_of_isSplit {output : String} (wild : isSplit output = true) (stem : String) :
    target output stem = Template.path output stem := by
  rw [target, if_pos wild]

/-- Paths of two stems lead to one place in no tree. -/
theorem location_ne {template stem other : String} {tree : FileTree} {location elsewhere : Location}
    (wild : isSplit template = true) (noBack : ".." ∉ (Path.ofString template).names)
    (isName : IsName stem) (isOther : IsName other) (different : stem ≠ other)
    (leads : tree.locate (Template.path template stem) = .ok location)
    (leadsElsewhere : tree.locate (Template.path template other) = .ok elsewhere) :
    location ≠ elsewhere := by
  rintro rfl
  have isHere := locate_eq_append (noBack_path isName noBack) leads
  rw [locate_eq_append (noBack_path isOther noBack) leadsElsewhere] at isHere
  have sameOrigin : origin (Template.path template other) = origin (Template.path template stem) := by
    rw [path_eq isName, path_eq isOther]
    rfl
  rw [sameOrigin] at isHere
  exact different (stem_eq_of_names wild isName isOther (List.append_cancel_left isHere).symm)

/-- The writes of a run are to the paths of some of its units, in order. -/
theorem Reported.sublist {output : String} {units : List (String × String)} {reports : List Report}
    {writes : List Write} (reported : Reported output units reports writes) :
    List.Sublist (writes.map (·.path)) (units.map fun unit => target output unit.1) := by
  induction reported with
  | nothing => exact .slnil
  | written rest ih => exact ih.cons_cons _
  | failed rest ih => exact ih.cons _

/-- Where no two writes are to one place, each is still to be seen. -/
theorem Wrote.still_there {before after : FileTree} {writes : List Write}
    (wrote : Wrote before writes after) (apart : (writes.map (·.location)).Nodup) :
    ∀ write ∈ writes, after.locate write.path = .ok write.location ∧
      after.get? write.location = some (.file write.text.toUTF8) := by
  intro write isWrite
  refine ⟨wrote.leads write isWrite, ?_⟩
  obtain ⟨first, later, rfl⟩ := List.append_of_mem isWrite
  obtain ⟨last, isLast, isThere, held⟩ := wrote.holds
  have isSame : last = write := by
    apply List.inj_on_of_nodup_map apart
    · exact List.mem_append_right _ isLast
    · exact isWrite
    · exact isThere
  rwa [isSame] at held

/-- What is written for different stems is written to different places. -/
theorem locations_nodup {template : String} {units : List (String × String)}
    {before after : FileTree} {reports : List Report} {writes : List Write}
    (wild : isSplit template = true) (noBack : ".." ∉ (Path.ofString template).names)
    (areStems : ∀ unit ∈ units, IsStem unit.1) (different : (units.map (·.1)).Nodup)
    (wrote : Wrote before writes after) (reported : Reported template units reports writes) :
    (writes.map (·.location)).Nodup := by
  -- two writes are to paths of units with different stems, so these lead to different places
  have apart : units.Pairwise fun unit later => unit.1 ≠ later.1 := List.pairwise_map.mp different
  have ofPaths : (writes.map (·.path)).Pairwise fun path later => ∀ location elsewhere,
      after.locate path = .ok location → after.locate later = .ok elsewhere →
      location ≠ elsewhere := by
    refine List.Pairwise.sublist reported.sublist (List.pairwise_map.mpr ?_)
    refine apart.imp_of_mem ?_
    intro unit later isUnit isLater differ location elsewhere leads leadsElsewhere
    rw [target_of_isSplit wild] at leads leadsElsewhere
    exact location_ne wild noBack (areStems unit isUnit).isName (areStems later isLater).isName differ
      leads leadsElsewhere
  refine List.pairwise_map.mpr ((List.pairwise_map.mp ofPaths).imp_of_mem ?_)
  intro write later isWrite isLater differ
  exact differ _ _ (wrote.leads write isWrite) (wrote.leads later isLater)

/-- Different stems give a template with a wildcard different paths, none of them around another. If
no name of the template leads back, whatever becomes of a run over units with different stems, no two
of its writes are to one place, and each of them is still to be seen in the end. -/
theorem stems_keep_apart {template : String} (wild : isSplit template = true) :
    (∀ stem other, IsStem stem → IsStem other → stem ≠ other →
      Template.path template stem ≠ Template.path template other ∧
      ∀ steps, Path.parent^[steps] (Template.path template stem) ≠ Template.path template other) ∧
    (".." ∉ (Path.ofString template).names →
      ∀ (check : String → Outcome Unit) (tree : FileTree) (units : List (String × String)) after outcome,
        writeAll check template tree units = (after, outcome) →
        (∀ unit ∈ units, IsStem unit.1) → (units.map (·.1)).Nodup →
        ∃ done reports writes, done <+: units ∧ Reported template done reports writes ∧
          (∀ all, outcome = .ok all → done = units ∧ reports = all) ∧ Wrote tree writes after ∧
          (writes.map (·.location)).Nodup ∧
          ∀ write ∈ writes, after.locate write.path = .ok write.location ∧
            after.get? write.location = some (.file write.text.toUTF8)) := by
  constructor
  · intro stem other isStem isOther different
    have apart := path_not_around wild isStem.isName isOther.isName different
    exact ⟨apart 0, apart⟩
  · intro noBack check tree units after outcome given areStems different
    obtain ⟨done, reports, writes, isFirst, wrote, reported, whole⟩ := writeAll_reached given
    have areStemsDone : ∀ unit ∈ done, IsStem unit.1 :=
      fun unit isUnit => areStems unit (isFirst.subset isUnit)
    have differentDone : (done.map (·.1)).Nodup := different.sublist (isFirst.map _).sublist
    have apart := locations_nodup wild noBack areStemsDone differentDone wrote reported
    exact ⟨done, reports, writes, isFirst, reported, whole, wrote, apart, wrote.still_there apart⟩

/-- Units whose stems begin alike. -/
def someTasks : List (String × String) := [("task", "first"), ("task_2", "second")]

/-- Both are written, each to a directory of its own. -/
theorem stems_keep_apart_tasks :
    isSplit "lib/*/*.dart" = true ∧ ".." ∉ (Path.ofString "lib/*/*.dart").names ∧
    (∀ unit ∈ someTasks, IsStem unit.1) ∧ (someTasks.map (·.1)).Nodup ∧
    (∀ steps, Path.parent^[steps] (Template.path "lib/*/*.dart" "task") ≠
      Template.path "lib/*/*.dart" "task_2") ∧
    ∃ after reports writes,
      writeAll (fun _ => .ok ()) "lib/*/*.dart" {} someTasks = (after, .ok reports) ∧
      reports.all (·.isOk) = true ∧ Reported "lib/*/*.dart" someTasks reports writes ∧
      (writes.map (·.location)).Nodup ∧
      ∀ write ∈ writes, after.locate write.path = .ok write.location ∧
        after.get? write.location = some (.file write.text.toUTF8) := by
  have wild : isSplit "lib/*/*.dart" = true := by decide
  have noBack : ".." ∉ (Path.ofString "lib/*/*.dart").names := by decide +kernel
  have areStems : ∀ unit ∈ someTasks, IsStem unit.1 := by decide
  have different : (someTasks.map (·.1)).Nodup := by decide
  obtain ⟨ofPaths, ofRuns⟩ := stems_keep_apart wild
  have apart := ofPaths "task" "task_2" (by decide) (by decide) (by decide)
  have evaluated : (writeAll (fun _ => .ok ()) "lib/*/*.dart" {} someTasks).2.map
      (fun reports => reports.all (·.isOk)) = .ok true := by decide +kernel
  cases run : writeAll (fun _ => .ok ()) "lib/*/*.dart" {} someTasks with
  | mk after outcome =>
    obtain ⟨done, reports, writes, _, reported, whole, _, nodup, areThere⟩ :=
      ofRuns noBack _ _ _ after outcome run areStems different
    rw [run] at evaluated
    cases outcome with
    | error fault => cases evaluated
    | ok all =>
      obtain ⟨rfl, rfl⟩ := whole all rfl
      exact ⟨wild, noBack, areStems, different, apart.2, after, reports, writes, rfl,
        Except.ok.inj evaluated, reported, nodup, areThere⟩

end Writer

end SchemaCodegen
