import SchemaCodegen.FileTree

/-!
# Changes of a file tree

What is at each location after an entry is put, taken away or moved, and what making directories
does to a tree. A path that leads somewhere still does as long as no directory is lost.
-/

namespace SchemaCodegen.FileTree

variable {tree before after last : FileTree} {location source target : Location}

/-! ## One change -/

/-- What was put at a location. -/
def made? (tree : FileTree) (location : Location) : Option Entry :=
  (tree.entries.find? (·.1 == location)).map (·.2)

theorem made?_put (entry : Entry) (other : Location) :
    (tree.put location entry).made? other =
      if other = location then some entry else tree.made? other := by
  unfold put made?
  by_cases isThere : tree.entries.any (·.1 == location) = true
  · have sameKey : ((fun e : Location × Entry => e.1 == other) ∘ fun (l, e) =>
        if l = location then (l, entry) else (l, e)) = fun e => e.1 == other := by
      funext e
      by_cases isIt : e.1 = location <;> simp [isIt]
    rw [if_pos isThere, List.find?_map, sameKey]
    cases found : tree.entries.find? (·.1 == other) with
    | none =>
      have differs : other ≠ location := by
        rintro rfl
        obtain ⟨e, isEntry, isAt⟩ := List.any_eq_true.mp isThere
        exact List.find?_eq_none.mp found e isEntry isAt
      rw [if_neg differs]
      rfl
    | some e =>
      have isAt : e.1 = other := by simpa using List.find?_some found
      by_cases isIt : other = location <;> simp [isAt, isIt]
  · rw [if_neg isThere, List.find?_append]
    by_cases isIt : other = location
    · have nowhere : tree.entries.find? (·.1 == location) = none := by
        rw [List.find?_eq_none]
        intro e isEntry isAt
        exact isThere (List.any_eq_true.mpr ⟨e, isEntry, isAt⟩)
      simp [isIt, nowhere]
    · have differs : ¬(location == other) = true := by simpa using Ne.symm isIt
      simp [isIt, differs]

theorem made?_erase (other : Location) :
    (tree.erase location).made? other = if other = location then none else tree.made? other := by
  unfold erase made?
  rw [List.find?_filter]
  by_cases isIt : other = location
  · rw [if_pos isIt, Option.map_eq_none_iff, List.find?_eq_none]
    intro e _ isAt
    simp [isIt] at isAt
  · have sameTest : (fun e : Location × Entry =>
        decide (decide (e.1 ≠ location) = true ∧ (e.1 == other) = true)) = fun e => e.1 == other := by
      funext e
      by_cases isAt : e.1 = other <;> simp [isAt, isIt]
    rw [if_neg isIt, sameTest]

/-- A change at one location that has no directory is the only change to be seen. -/
theorem get?_of_made? {entry : Option Entry} (notDirectory : tree.get? location ≠ some .directory)
    (only : ∀ other, after.made? other = if other = location then entry else tree.made? other)
    (other : Location) :
    after.get? other = if other = location then entry else tree.get? other := by
  unfold get? at notDirectory ⊢
  -- a location that is a directory in every tree is not the one that was changed
  by_cases isFixed : (other.all (· == "..") || other == ["/"]) = true
  · have differs : other ≠ location := by
      rintro rfl
      exact notDirectory (if_pos isFixed)
    rw [if_pos isFixed, if_neg differs, if_pos isFixed]
  · rw [if_neg isFixed, if_neg isFixed]
    exact only other

theorem notDirectory_of_free (isFree : tree.get? location = none) :
    tree.get? location ≠ some .directory := by
  rw [isFree]
  nofun

theorem notDirectory_of_file {content : ByteArray}
    (isFile : tree.get? location = some (.file content)) :
    tree.get? location ≠ some .directory := by
  rw [isFile]
  nofun

/-- What is put at a location that has no directory is there, and nothing else has changed. -/
theorem get?_put (notDirectory : tree.get? location ≠ some .directory) (entry : Entry)
    (other : Location) :
    (tree.put location entry).get? other =
      if other = location then some entry else tree.get? other :=
  get?_of_made? notDirectory (made?_put entry) other

/-- What is taken away is gone, and nothing else has changed. -/
theorem get?_erase (notDirectory : tree.get? location ≠ some .directory) (other : Location) :
    (tree.erase location).get? other = if other = location then none else tree.get? other :=
  get?_of_made? notDirectory made?_erase other

/-- A file that is moved is at its target, and nothing is where it was. -/
theorem get?_move {content : ByteArray} (isFile : tree.get? source = some (.file content))
    (notDirectory : tree.get? target ≠ some .directory) (other : Location) :
    (tree.move source target).get? other =
      if other = target then some (.file content)
      else if other = source then none else tree.get? other := by
  have noDirectory := notDirectory_of_file isFile
  have stillNone : (tree.erase source).get? target ≠ some .directory := by
    rw [get?_erase noDirectory]
    split
    · nofun
    · exact notDirectory
  rw [move, isFile]
  show ((tree.erase source).put target (.file content)).get? other = _
  rw [get?_put stillNone, get?_erase noDirectory]

/-! ## Growth -/

/-- What is at a location has stayed, or a directory was made where nothing was. -/
def Grown (old new : Option Entry) : Prop := new = old ∨ old = none ∧ new = some .directory

theorem Grown.trans {old middle new : Option Entry} (first : Grown old middle)
    (second : Grown middle new) : Grown old new := by
  rcases first with rfl | ⟨rfl, rfl⟩
  · exact second
  · rcases second with rfl | ⟨isNone, _⟩
    · exact .inr ⟨rfl, rfl⟩
    · cases isNone

/-- What is there stays. -/
theorem Grown.of_some {old new : Option Entry} {entry : Entry} (grown : Grown old new)
    (isThere : old = some entry) : new = some entry := by
  rcases grown with same | ⟨isNone, _⟩
  · rw [same, isThere]
  · rw [isThere] at isNone
    cases isNone

/-- Directories were made in a tree, and nothing else has changed. -/
def Extends (before after : FileTree) : Prop :=
  ∀ location, Grown (before.get? location) (after.get? location)

theorem Extends.refl (tree : FileTree) : Extends tree tree := fun _ => .inl rfl

theorem Extends.trans (first : Extends before after) (second : Extends after last) :
    Extends before last :=
  fun location => (first location).trans (second location)

theorem extends_put (isFree : tree.get? location = none) :
    Extends tree (tree.put location .directory) := by
  intro other
  rw [get?_put (notDirectory_of_free isFree)]
  by_cases isIt : other = location
  · rw [if_pos isIt, isIt, isFree]
    exact .inr ⟨rfl, rfl⟩
  · rw [if_neg isIt]
    exact .inl rfl

theorem makeDirectory_extends {path : Path} (made : tree.makeDirectory path = .ok after) :
    Extends tree after := by
  unfold makeDirectory at made
  split at made
  · cases made
  next location _ =>
    split at made
    · cases made
    next isFree =>
      cases made
      exact extends_put (by simpa using isFree)

theorem tolerate_tree (tree : FileTree) (path : Path) (refusal : Refusal) :
    (tree.tolerate path refusal).1 = tree := by
  unfold tolerate
  split <;> rfl

/-- Directories on the way to a path are made and nothing else is changed, also if that fails. -/
theorem makeDirectories_extends (tree : FileTree) (path : Path) :
    Extends tree (tree.makeDirectories path).1 := by
  -- along the recursion of the definition: parents are made before the path is tried again
  induction path using makeDirectories.induct tree with
  | case1 path after made =>
    rw [makeDirectories, made]
    exact makeDirectory_extends made
  | case2 path noWay isEmpty =>
    rw [makeDirectories, noWay]
    simp only [dif_pos isEmpty]
    exact Extends.refl tree
  | case3 path noWay isLong middle fault onTheWay ih =>
    rw [onTheWay] at ih
    rw [makeDirectories, noWay]
    simp only [dif_neg isLong, onTheWay]
    exact ih
  | case4 path noWay isLong middle onTheWay after made ih =>
    rw [onTheWay] at ih
    rw [makeDirectories, noWay]
    simp only [dif_neg isLong, onTheWay, made]
    exact ih.trans (makeDirectory_extends made)
  | case5 path noWay isLong middle onTheWay refusal refused ih =>
    rw [onTheWay] at ih
    rw [makeDirectories, noWay]
    simp only [dif_neg isLong, onTheWay, refused, tolerate_tree]
    exact ih
  | case6 path refusal other refused =>
    rw [makeDirectories, refused]
    cases refusal with
    | noEntry => exact absurd rfl other
    | _ =>
      rw [tolerate_tree]
      exact Extends.refl tree

/-! ## Where paths lead -/

/-- No directory of a tree was lost. -/
def KeepsDirectories (before after : FileTree) : Prop :=
  ∀ location, before.get? location = some .directory → after.get? location = some .directory

theorem Extends.keepsDirectories (grown : Extends before after) : KeepsDirectories before after :=
  fun location isDirectory => (grown location).of_some isDirectory

theorem walk_of_keeps (kept : KeepsDirectories before after) {names : List String}
    (leads : before.walk source names = .ok target) : after.walk source names = .ok target := by
  induction names generalizing source with
  | nil => exact leads
  | cons name rest ih =>
    unfold walk at leads ⊢
    by_cases isUp : name = ".."
    · rw [if_pos isUp] at leads ⊢
      exact ih leads
    rw [if_neg isUp] at leads ⊢
    by_cases isLong : isTooLong name = true
    · rw [if_pos isLong] at leads
      cases leads
    rw [if_neg isLong] at leads ⊢
    split at leads
    · cases leads
    · cases leads
    next isDirectory =>
      rw [kept _ isDirectory]
      exact ih leads

theorem locate_of_keeps (kept : KeepsDirectories before after) {path : Path}
    (leads : before.locate path = .ok target) : after.locate path = .ok target := by
  unfold locate at leads ⊢
  split at leads
  · cases leads
  next isShort =>
    rw [if_neg isShort]
    split at leads
    · exact leads
    next name _ =>
      split at leads
      · cases leads
      next around walked => rwa [walk_of_keeps kept walked]

end SchemaCodegen.FileTree
