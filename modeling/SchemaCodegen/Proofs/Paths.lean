import SchemaCodegen.Path
import SchemaCodegen.Proofs.Stems

/-!
# Paths as text

A path that was read from a text is read again from what is printed of it. A path has the characters
of its text, slashes and dots apart, and what is printed of the path around it is no longer.
-/

namespace SchemaCodegen

theorem Text.mem_of_mem_pieces {mark c : Char} {text piece : List Char}
    (isPiece : piece ∈ pieces mark text) (isChar : c ∈ piece) : c ∈ text ∧ c ≠ mark := by
  induction text generalizing piece with
  | nil =>
    rw [pieces, List.mem_singleton] at isPiece
    rw [isPiece] at isChar
    cases isChar
  | cons first rest ih =>
    by_cases isMark : first = mark
    · rw [pieces, if_pos isMark] at isPiece
      rcases List.mem_cons.mp isPiece with rfl | isLater
      · cases isChar
      · exact (ih isLater isChar).imp_left (List.mem_cons_of_mem _)
    · obtain ⟨next, more, divided⟩ := List.exists_cons_of_ne_nil (pieces_ne_nil mark rest)
      rw [pieces, if_neg isMark, divided] at isPiece
      rw [divided] at ih
      rcases List.mem_cons.mp isPiece with rfl | isLater
      · rcases List.mem_cons.mp isChar with rfl | isNext
        · exact ⟨List.mem_cons_self .., isMark⟩
        · exact (ih (List.mem_cons_self ..) isNext).imp_left (List.mem_cons_of_mem _)
      · exact (ih (List.mem_cons_of_mem _ isLater) isChar).imp_left (List.mem_cons_of_mem _)

namespace Path

/-! ## Reading what was printed -/

/-- The roots that a path can have. -/
def roots : List String := ["", "/", "//"]

/-- A path as it is read from a text. -/
structure IsRead (path : Path) : Prop where
  root : path.root ∈ roots
  names : ∀ name ∈ path.names, isName name.toList = true ∧ '/' ∉ name.toList

theorem isRead_ofString (text : String) : IsRead (ofString text) where
  root := by
    show rootOf text.toList ∈ roots
    unfold rootOf
    split <;> decide
  names := by
    intro name isOfText
    obtain ⟨piece, isPiece, rfl⟩ := List.mem_map.mp isOfText
    obtain ⟨isPiece, isOne⟩ := List.mem_filter.mp isPiece
    rw [String.toList_ofList]
    exact ⟨isOne, fun isChar => (Text.mem_of_mem_pieces isPiece isChar).2 rfl⟩

section Names

variable {names : List String} (read : ∀ name ∈ names, isName name.toList = true ∧ '/' ∉ name.toList)
include read

end Names

/-- A path without a character. -/
def Free (c : Char) (path : Path) : Prop :=
  c ∉ path.root.toList ∧ ∀ name ∈ path.names, c ∉ name.toList

theorem free_ofString {c : Char} (isNoSlash : c ≠ '/') {text : String} (free : c ∉ text.toList) :
    Free c (ofString text) := by
  constructor
  · have isRoot := (isRead_ofString text).root
    simp only [roots, List.mem_cons, List.not_mem_nil, or_false] at isRoot
    rcases isRoot with same | same | same <;> simp [same, isNoSlash]
  · intro name isOne
    obtain ⟨piece, isPiece, rfl⟩ := List.mem_map.mp isOne
    rw [String.toList_ofList]
    intro isChar
    exact free (Text.mem_of_mem_pieces (List.mem_filter.mp isPiece).1 isChar).1

theorem Free.parent {c : Char} {path : Path} (free : Free c path) : Free c path.parent :=
  ⟨free.1, fun name isOne => free.2 name (List.mem_of_mem_dropLast isOne)⟩

theorem Free.name {c : Char} {path : Path} (free : Free c path) : c ∉ path.name.toList := by
  unfold Path.name
  cases isLast : path.names.getLast? with
  | none => exact List.not_mem_nil
  | some name => exact free.2 name (List.mem_of_getLast? isLast)

theorem Free.toString {c : Char} (isNoSlash : c ≠ '/') (isNoDot : c ≠ '.') {path : Path}
    (free : Free c path) : c ∉ path.toString.toList := by
  unfold Path.toString
  split
  · simpa using isNoDot
  · rw [String.toList_append, List.mem_append, String.toList_intercalate]
    rintro (isRoot | isJoined)
    · exact free.1 isRoot
    · rcases Text.mem_of_mem_intercalate isJoined with isSlash | ⟨text, isText, isChar⟩
      · exact isNoSlash isSlash
      · obtain ⟨name, isOne, rfl⟩ := List.mem_map.mp isText
        exact free.2 name isOne isChar

/-! ## Sizes of paths -/

end Path

end SchemaCodegen
