import SchemaCodegen.Proofs.Paths

/-!
# Paths of templates

A stem that is one name of a path takes the place of every wildcard in each name of a template by
itself. So the path of a unit has the root of its template, and as many names, and the stem can be
told from each name with a wildcard.
-/

namespace SchemaCodegen

namespace Text

/-- Characters in front of a text that are no mark belong to its first piece. -/
theorem pieces_prepend {mark : Char} {front : List Char} (free : mark ∉ front) {text piece : List Char}
    {more : List (List Char)} (divided : pieces mark text = piece :: more) :
    pieces mark (front ++ text) = (front ++ piece) :: more := by
  induction front with
  | nil => exact divided
  | cons c rest ih =>
    have other : c ≠ mark := fun same => free (same ▸ List.mem_cons_self ..)
    rw [List.cons_append, pieces, if_neg other, ih fun member => free (List.mem_cons_of_mem _ member)]
    rfl

end Text

namespace Template

/-! ## Filled texts -/

theorem fill_cons (stem : List Char) (c : Char) (rest : List Char) :
    fill stem (c :: rest) = (if c = wildcard then stem else [c]) ++ fill stem rest := by
  simp [fill]

theorem fill_append (stem front rest : List Char) :
    fill stem (front ++ rest) = fill stem front ++ fill stem rest := by
  simp [fill]

theorem not_mem_fill {c : Char} {stem template : List Char} (notStem : c ∉ stem)
    (notTemplate : c ∉ template) : c ∉ fill stem template := by
  intro isChar
  obtain ⟨d, isOfTemplate, isFilled⟩ := List.mem_flatMap.mp isChar
  split at isFilled
  · exact notStem isFilled
  · rw [List.mem_singleton.mp isFilled] at notTemplate
    exact notTemplate isOfTemplate

/-- A text without wildcards is the same with any stem. -/
theorem fill_of_not_mem {stem template : List Char} (fixed : wildcard ∉ template) :
    fill stem template = template := by
  induction template with
  | nil => rfl
  | cons c rest ih =>
    have other : c ≠ wildcard := fun same => fixed (same ▸ List.mem_cons_self ..)
    rw [fill_cons, if_neg other, ih fun member => fixed (List.mem_cons_of_mem _ member)]
    rfl

/-- A text with a wildcard has the stem in it. -/
theorem infix_fill {stem template : List Char} (wild : wildcard ∈ template) :
    stem <:+: fill stem template := by
  obtain ⟨front, rest, rfl⟩ := List.append_of_mem wild
  rw [fill_append, fill_cons, if_pos rfl]
  exact ⟨fill stem front, fill stem rest, by simp⟩

theorem length_fill (stem template : List Char) :
    (fill stem template).length =
      template.countP (· ≠ wildcard) + template.count wildcard * stem.length := by
  induction template with
  | nil => simp [fill]
  | cons c rest ih =>
    rw [fill_cons, List.length_append, ih, List.countP_cons, List.count_cons]
    by_cases isWild : c = wildcard
    · simp [isWild, Nat.add_mul]
      omega
    · simp [isWild]
      omega

/-- Different stems give different texts where there is a wildcard. -/
theorem fill_inj {stem other template : List Char} (wild : wildcard ∈ template)
    (same : fill stem template = fill other template) : stem = other := by
  have lengths : stem.length = other.length := by
    have counted := congrArg List.length same
    rw [length_fill, length_fill] at counted
    have some_ : 0 < template.count wildcard := List.count_pos_iff.mpr wild
    exact Nat.eq_of_mul_eq_mul_left some_ (by omega)
  induction template with
  | nil => cases wild
  | cons c rest ih =>
    rw [fill_cons, fill_cons] at same
    by_cases isWild : c = wildcard
    · rw [if_pos isWild, if_pos isWild] at same
      exact List.append_inj_left same lengths
    · rw [if_neg isWild, if_neg isWild] at same
      have later : wildcard ∈ rest := by
        rcases List.mem_cons.mp wild with isFirst | isLater
        · exact absurd isFirst.symm isWild
        · exact isLater
      exact ih later (List.append_cancel_left same)

/-- The name that a name of a template gives with a stem. -/
def fillName (stem name : String) : String := String.ofList (fill stem.toList name.toList)

theorem fillName_of_not_mem {stem name : String} (fixed : wildcard ∉ name.toList) :
    fillName stem name = name := by
  rw [fillName, fill_of_not_mem fixed, String.ofList_toList]

theorem fillName_inj {stem other name : String} (wild : wildcard ∈ name.toList)
    (same : fillName stem name = fillName other name) : stem = other := by
  rw [fillName, fillName, String.ofList_inj] at same
  exact String.toList_inj.mp (fill_inj wild same)

/-- A wildcard in front of a fixed text gives the stem with this text behind it. -/
theorem fillName_front (stem : String) {rest : String} (fixed : wildcard ∉ rest.toList) :
    fillName stem ("*" ++ rest) = stem ++ rest := by
  apply String.toList_inj.mp
  rw [fillName, String.toList_ofList, String.toList_append, String.toList_append, fill_append,
    fill_of_not_mem fixed]
  simp [fill, wildcard]

/-! ## Stems that are one name -/

/-- A stem that is one name of a path: neither empty, nor where one is, nor the way back, and without
slashes. -/
structure IsName (stem : String) : Prop where
  some_ : stem ≠ ""
  notHere : stem ≠ "."
  notBack : stem ≠ ".."
  noSlash : '/' ∉ stem.toList

/-- A name stays one with an ending behind it. -/
theorem IsName.append {name ending : String} (isName : IsName name)
    (long : 2 ≤ ending.toList.length) (noSlash : '/' ∉ ending.toList) : IsName (name ++ ending) := by
  have some_ : 0 < name.toList.length := by
    apply List.length_pos_of_ne_nil
    exact fun none_ => isName.some_ (String.toList_eq_nil_iff.mp none_)
  have different : ∀ dots : String, dots.toList.length ≤ 2 → name ++ ending ≠ dots := by
    rintro dots short rfl
    rw [String.toList_append, List.length_append] at short
    omega
  refine ⟨different "" (by decide), different "." (by decide), different ".." (by decide), ?_⟩
  rw [String.toList_append, List.mem_append]
  rintro (ofName | ofEnding)
  · exact isName.noSlash ofName
  · exact noSlash ofEnding

section Filled

variable {stem : String} (isName : IsName stem)
include isName

/-- A name is empty or of one or two dots only as the name of a template. -/
theorem fill_eq_dots_iff {name dots : List Char} (isDots : dots <+: ['.', '.']) :
    fill stem.toList name = dots ↔ name = dots := by
  constructor
  · intro same
    by_cases wild : wildcard ∈ name
    · have part : List.Sublist stem.toList (List.replicate 2 '.') := by
        have inDots := @infix_fill stem.toList _ wild
        rw [same] at inDots
        exact inDots.sublist.trans isDots.sublist
      obtain ⟨count, few, spelled⟩ := List.sublist_replicate_iff.mp part
      have isStem : stem = String.ofList (List.replicate count '.') := by
        rw [← spelled, String.ofList_toList]
      have counted : count = 0 ∨ count = 1 ∨ count = 2 := by omega
      rcases counted with rfl | rfl | rfl
      · exact absurd isStem isName.some_
      · exact absurd isStem isName.notHere
      · exact absurd isStem isName.notBack
    · rwa [fill_of_not_mem wild] at same
  · rintro rfl
    apply fill_of_not_mem
    intro wild
    have isDot := isDots.subset wild
    revert isDot
    decide

theorem pieces_fill (template : List Char) :
    Text.pieces '/' (fill stem.toList template) =
      (Text.pieces '/' template).map (fill stem.toList) := by
  induction template with
  | nil => rfl
  | cons c rest ih =>
    obtain ⟨piece, more, divided⟩ := List.exists_cons_of_ne_nil (Text.pieces_ne_nil '/' rest)
    rw [divided, List.map_cons] at ih
    by_cases isWild : c = wildcard
    · have other : c ≠ '/' := by
        rw [isWild]
        decide
      rw [fill_cons, if_pos isWild, Text.pieces_prepend isName.noSlash ih, Text.pieces, if_neg other,
        divided, List.map_cons, fill_cons, if_pos isWild]
    · rw [fill_cons, if_neg isWild, List.singleton_append, Text.pieces, Text.pieces, ih, divided]
      split
      · rfl
      · rw [List.map_cons, fill_cons, if_neg isWild]
        rfl

theorem isName_fill (piece : List Char) : Path.isName (fill stem.toList piece) = Path.isName piece := by
  have notEmpty := @fill_eq_dots_iff stem isName piece [] (by simp)
  have notHere := @fill_eq_dots_iff stem isName piece ['.'] (by simp)
  simp only [Path.isName, ne_eq, notEmpty, notHere]

theorem takeWhile_fill (template : List Char) :
    (fill stem.toList template).takeWhile (· = '/') = template.takeWhile (· = '/') := by
  induction template with
  | nil => rfl
  | cons c rest ih =>
    rw [fill_cons]
    by_cases isWild : c = wildcard
    · -- neither the wildcard nor the stem begins with a slash
      obtain ⟨first, others, spelled⟩ : ∃ first others, stem.toList = first :: others := by
        apply List.exists_cons_of_ne_nil
        exact fun none_ => isName.some_ (String.toList_eq_nil_iff.mp none_)
      have other : first ≠ '/' := by
        rintro rfl
        exact isName.noSlash (spelled ▸ List.mem_cons_self ..)
      have otherWild : wildcard ≠ '/' := by decide
      simp [isWild, spelled, other, otherWild]
    · simp [isWild, List.takeWhile_cons, ih]

/-- The path of a unit has the root of its template and a name for each of its names. -/
theorem path_eq (template : String) :
    path template stem =
      { root := (Path.ofString template).root
        names := (Path.ofString template).names.map (fillName stem) } := by
  have root : Path.rootOf (fill stem.toList template.toList) = Path.rootOf template.toList := by
    unfold Path.rootOf
    rw [takeWhile_fill isName]
  have names : (Text.pieces '/' (fill stem.toList template.toList)).filter Path.isName =
      ((Text.pieces '/' template.toList).filter Path.isName).map (fill stem.toList) := by
    have same : Path.isName ∘ fill stem.toList = Path.isName := funext (isName_fill isName)
    rw [pieces_fill isName, List.filter_map, same]
  unfold path Path.ofString
  simp only [String.toList_ofList, root, names, List.map_map]
  congr 2
  funext piece
  simp [fillName]

end Filled

end Template

end SchemaCodegen
