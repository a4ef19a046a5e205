/-!
# Replacing the ending of a text

A rule names an ending and what stands in its place. The empty ending is the end of every text and
takes the whole of it, so that the replacement alone is left.
-/

namespace SchemaCodegen.Ending

/-- The text before an ending. -/
def before (ending text : List Char) : List Char :=
  if ending.isEmpty then [] else text.take (text.length - ending.length)

/-- The text with its ending replaced, if it ends so. -/
def replace? (ending replacement text : List Char) : Option (List Char) :=
  if ending.isSuffixOf text then some (before ending text ++ replacement) else none

/-- Whether a text ends so. -/
def isEndOf (ending text : String) : Bool := ending.toList.isSuffixOf text.toList

/-- `replace?` on strings, for a text that ends so. -/
def replaced (ending replacement text : String) : String :=
  String.ofList (before ending.toList text.toList ++ replacement.toList)

theorem before_append {ending : List Char} (h : ending ≠ []) (q : List Char) :
    before ending (q ++ ending) = q := by
  simp [before, h]

theorem isEndOf_iff {ending text : String} :
    isEndOf ending text = true ↔ ending.toList <:+ text.toList := by
  simp [isEndOf]

theorem isEndOf_append (front ending : String) : isEndOf ending (front ++ ending) = true := by
  rw [isEndOf_iff, String.toList_append]
  exact List.suffix_append ..

/-- A text that ends so is a front with the ending behind it. -/
theorem exists_of_isEndOf {ending text : String} (isEnd : isEndOf ending text = true) :
    ∃ front, text = front ++ ending := by
  obtain ⟨front, joined⟩ := isEndOf_iff.mp isEnd
  refine ⟨String.ofList front, ?_⟩
  apply String.toList_inj.mp
  rw [String.toList_append, String.toList_ofList, joined]

theorem replaced_append {ending : String} (some_ : ending ≠ "") (front replacement : String) :
    replaced ending replacement (front ++ ending) = front ++ replacement := by
  have someChars : ending.toList ≠ [] := fun none_ => some_ (String.toList_eq_nil_iff.mp none_)
  apply String.toList_inj.mp
  rw [replaced, String.toList_ofList, String.toList_append, before_append someChars,
    String.toList_append]

theorem replaced_empty (replacement text : String) : replaced "" replacement text = replacement := by
  simp [replaced, before]

theorem eq_append_iff {front text : String} : text = front ++ text ↔ front = "" := by
  rw [← String.toList_inj, String.toList_append, List.self_eq_append_left, String.toList_eq_nil_iff]

/-- The front stays exactly if there is an ending behind it, or nothing to lose. -/
theorem replaced_eq_iff {ending front replacement : String} :
    replaced ending replacement (front ++ ending) = front ++ replacement ↔
      ending ≠ "" ∨ front = "" := by
  by_cases none_ : ending = ""
  · subst none_
    rw [replaced_empty, eq_append_iff]
    exact (or_iff_right fun some_ => some_ rfl).symm
  · rw [replaced_append none_]
    exact iff_of_true rfl (.inl none_)

/-- Behind a front, an ending of two parts is there exactly if the front ends with the first. -/
theorem isEndOf_append_append (front first second : String) :
    isEndOf (first ++ second) (front ++ second) = isEndOf first front := by
  rw [Bool.eq_iff_iff, isEndOf_iff, isEndOf_iff, String.toList_append, String.toList_append,
    List.suffix_append_inj_of_length_eq rfl, and_iff_left rfl]

end SchemaCodegen.Ending
