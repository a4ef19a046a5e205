/-!
# Blank characters and line ends

Which characters are cut from the ends of a text, and where a text is divided into lines. Both sets
go beyond ASCII: separators of every width are blank, and the separators of records, of lines and
of paragraphs end a line.
-/

namespace SchemaCodegen.Text

/-- The space and every other character that only separates. -/
def isBlank (c : Char) : Bool :=
  let n := c.toNat
  (9 ≤ n && n ≤ 13) || (0x1c ≤ n && n ≤ 0x20) || n == 0x85 || n == 0xa0 || n == 0x1680 ||
    (0x2000 ≤ n && n ≤ 0x200a) || n == 0x2028 || n == 0x2029 || n == 0x202f || n == 0x205f ||
    n == 0x3000

/-- The characters that end a line. -/
def isLineEnd (c : Char) : Bool :=
  let n := c.toNat
  (10 ≤ n && n ≤ 13) || (0x1c ≤ n && n ≤ 0x1e) || n == 0x85 || n == 0x2028 || n == 0x2029

/-- The text without the blanks before it. -/
def trimLeft (text : List Char) : List Char := text.dropWhile isBlank

/-- The text without the blanks after it. -/
def trimRight (text : List Char) : List Char := (text.reverse.dropWhile isBlank).reverse

/-- The text without the blanks around it. -/
def trim (text : List Char) : List Char := trimRight (trimLeft text)

/-- The lines of a text without their ends; a line end at the very end begins no line. -/
def lines : List Char → List (List Char)
  | [] => []
  | '\r' :: '\n' :: rest => [] :: lines rest
  | c :: rest =>
    if isLineEnd c then [] :: lines rest
    else
      match lines rest with
      | [] => [[c]]
      | line :: more => (c :: line) :: more

/-- `trim` on strings. -/
def strip (text : String) : String := String.ofList (trim text.toList)

/-- `lines` on strings. -/
def splitLines (text : String) : List String := (lines text.toList).map String.ofList

/-- Every line end is blank. -/
theorem isBlank_of_isLineEnd {c : Char} (h : isLineEnd c = true) : isBlank c = true := by
  simp only [isLineEnd, isBlank, Bool.or_eq_true, Bool.and_eq_true, decide_eq_true_eq,
    beq_iff_eq] at h ⊢
  omega

end SchemaCodegen.Text
