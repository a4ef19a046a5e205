/-!
# Pieces of a text

A text is divided at each occurrence of a mark. Joining the pieces by the mark gives the text back.
-/

namespace SchemaCodegen.Text

/-- The pieces of a text between the marks; there is always one more than there are marks. -/
def pieces (mark : Char) : List Char → List (List Char)
  | [] => [[]]
  | c :: rest =>
    if c = mark then [] :: pieces mark rest
    else
      match pieces mark rest with
      | [] => [[c]]
      | piece :: more => (c :: piece) :: more

theorem pieces_ne_nil (mark : Char) (text : List Char) : pieces mark text ≠ [] := by
  cases text with
  | nil => simp [pieces]
  | cons c rest =>
    by_cases h : c = mark
    · simp [pieces, h]
    · simp only [pieces, h, if_false]
      split <;> simp

/-- The pieces joined by the mark are the text. -/
theorem intercalate_pieces (mark : Char) (text : List Char) :
    [mark].intercalate (pieces mark text) = text := by
  induction text with
  | nil => rfl
  | cons c rest ih =>
    obtain ⟨piece, more, h⟩ := List.exists_cons_of_ne_nil (pieces_ne_nil mark rest)
    by_cases hc : c = mark
    · subst hc
      simp only [pieces, if_true]
      rw [h] at ih ⊢
      simp [List.intercalate, List.intersperse] at ih ⊢
      exact ih
    · simp only [pieces, hc, if_false, h]
      rw [h] at ih
      cases more with
      | nil => simpa [List.intercalate, List.intersperse] using ih
      | cons next more => simpa [List.intercalate, List.intersperse] using ih

end SchemaCodegen.Text
