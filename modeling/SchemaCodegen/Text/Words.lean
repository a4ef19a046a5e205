/-!
# Words of a name and the cases they are written in

A name is read as a list of words: runs of lower-case letters, a capital with the lower-case letters
after it, and runs of digits. All else separates words. Only ASCII letters and digits are part of
words, so that every word can stand in an identifier of the target languages.
-/

namespace SchemaCodegen.Words

/-- The characters that words are made of. -/
def isPart (c : Char) : Bool := c.isUpper || c.isLower || c.isDigit

/-- A letter is continued by a lower-case letter, a digit by a digit. -/
def continues (c next : Char) : Bool :=
  ((c.isUpper || c.isLower) && next.isLower) || (c.isDigit && next.isDigit)

/-- The words of a text, in order. -/
def split : List Char → List (List Char)
  | [] => []
  | c :: rest =>
    if isPart c then
      match rest, split rest with
      | next :: _, word :: words =>
        if continues c next then (c :: word) :: words else [c] :: word :: words
      | _, words => [c] :: words
    else split rest

/-- The first letter large, the others small. -/
def capitalize : List Char → List Char
  | [] => []
  | c :: rest => c.toUpper :: rest.map Char.toLower

/-- All letters small. -/
def lower (word : List Char) : List Char := word.map Char.toLower

/-- The words of a text capitalised and written together. -/
def pascal (text : List Char) : List Char := ((split text).map capitalize).flatten

/-- The words of a text in small letters, joined by underscores. -/
def snake (text : List Char) : List Char := ['_'].intercalate ((split text).map lower)

/-- The words of a text written together, each but the first capitalised. -/
def camel (text : List Char) : List Char :=
  match pascal text with
  | [] => []
  | c :: rest => c.toLower :: rest

/-- `FirstName` for `first_name`. -/
def pascalCase (text : String) : String := String.ofList (pascal text.toList)

/-- `first_name` for `FirstName`. -/
def snakeCase (text : String) : String := String.ofList (snake text.toList)

/-- `firstName` for `first_name`. -/
def camelCase (text : String) : String := String.ofList (camel text.toList)

theorem split_nil : split [] = [] := rfl

theorem split_cons_of_not_isPart {c : Char} (h : isPart c = false) (rest : List Char) :
    split (c :: rest) = split rest := by
  simp [split, h]

@[simp] theorem toList_pascalCase (text : String) : (pascalCase text).toList = pascal text.toList := by
  simp [pascalCase]

@[simp] theorem toList_snakeCase (text : String) : (snakeCase text).toList = snake text.toList := by
  simp [snakeCase]

end SchemaCodegen.Words
