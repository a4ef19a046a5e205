import SchemaCodegen.Proofs.Casing
import SchemaCodegen.Python.Token

/-!
# Scanning a line of names and brackets

A text that is made of names, brackets, commas and bars is scanned piece by piece, each to its own
token, wherever it stands in a line.
-/

namespace SchemaCodegen.Python.Token

variable {fuel : Nat} {blocks : List Column} {opened : List String} {rest : List Char}
  {found : List Token}

theorem lines_sign {c : Char} {s : String} {after : List Char}
    (isSign : sign? (c :: rest) = some (s, after)) (plain : c ∈ ['[', ']', '|', ',']) :
    lines (fuel + 1) false blocks opened (c :: rest) =
      (bracket s opened).bind fun opened =>
        (lines fuel false blocks opened after).bind fun more => some (.sign s :: more) := by
  rw [lines.eq_def]
  simp only [List.mem_cons, List.not_mem_nil, or_false] at plain
  simp only [isSign]
  rcases plain with rfl | rfl | rfl | rfl <;> rfl

/-- A bracket is opened unless too many are open already. -/
theorem lines_open :
    lines (fuel + 1) false blocks opened ('[' :: rest) =
      if 200 ≤ opened.length then none
      else (lines fuel false blocks ("]" :: opened) rest).map (.sign "[" :: ·) := by
  rw [lines_sign rfl (by decide), Option.map_eq_bind]
  show (if 200 ≤ opened.length then none else some ("]" :: opened)).bind _ = _
  split <;> rfl

theorem lines_close :
    lines (fuel + 1) false blocks ("]" :: opened) (']' :: rest) =
      (lines fuel false blocks opened rest).map (.sign "]" :: ·) := by
  rw [lines_sign rfl (by decide), Option.map_eq_bind]
  rfl

theorem lines_blank :
    lines (fuel + 1) false blocks opened (' ' :: rest) = lines fuel false blocks opened rest := rfl

theorem exists_of_open
    (scanned : lines fuel false blocks opened ('[' :: rest) = some found) :
    ∃ less more, lines less false blocks ("]" :: opened) rest = some more ∧
      found = .sign "[" :: more := by
  cases fuel with
  | zero => cases scanned
  | succ fuel =>
    rw [lines_open] at scanned
    split at scanned
    · cases scanned
    · obtain ⟨more, later, same⟩ := Option.map_eq_some_iff.mp scanned
      exact ⟨fuel, more, later, same.symm⟩

theorem exists_of_close
    (scanned : lines fuel false blocks ("]" :: opened) (']' :: rest) = some found) :
    ∃ less more, lines less false blocks opened rest = some more ∧
      found = .sign "]" :: more := by
  cases fuel with
  | zero => cases scanned
  | succ fuel =>
    rw [lines_close] at scanned
    obtain ⟨more, later, same⟩ := Option.map_eq_some_iff.mp scanned
    exact ⟨fuel, more, later, same.symm⟩

theorem exists_of_blank (scanned : lines fuel false blocks opened (' ' :: rest) = some found) :
    ∃ less, lines less false blocks opened rest = some found := by
  cases fuel with
  | zero => cases scanned
  | succ fuel => exact ⟨fuel, scanned⟩

/-- A sign that opens and closes nothing is read in one step. -/
theorem lines_plain {c : Char} {s : String}
    (isSign : sign? (c :: rest) = some (s, rest)) (plain : (c, s) ∈ [(',', ","), ('|', "|")]) :
    lines (fuel + 1) false blocks opened (c :: rest) =
      (lines fuel false blocks opened rest).map (.sign s :: ·) := by
  have isPlain : c ∈ ['[', ']', '|', ','] ∧ bracket s opened = some opened := by
    simp only [List.mem_cons, Prod.mk.injEq, List.not_mem_nil, or_false] at plain
    rcases plain with ⟨rfl, rfl⟩ | ⟨rfl, rfl⟩
    · exact ⟨by decide, rfl⟩
    · exact ⟨by decide, rfl⟩
  rw [lines_sign isSign isPlain.1, isPlain.2, Option.bind_some, Option.map_eq_bind]
  rfl

/-- Whether a text can follow a name, so that the name ends there. -/
def Follows (rest : List Char) : Prop :=
  ∀ c ∈ rest.head?, Number.isNameLike c = false ∧ isMark c = false

theorem isNameLike_of_isIdentifierPart {c : Char} (isPart : Text.isIdentifierPart c = true) :
    Number.isNameLike c = true := by
  unfold Text.isIdentifierPart at isPart
  split at isPart
  next => simp only [Number.isNameLike, isPart, Bool.true_or]
  next outside =>
    have large : 128 ≤ c.toNat := by omega
    simp [Number.isNameLike, large]

theorem isNameLike_of_isIdentifierStart {c : Char} (isStart : Text.isIdentifierStart c = true) :
    Number.isNameLike c = true ∧ c.isDigit = false := by
  unfold Text.isIdentifierStart at isStart
  split at isStart
  next =>
    rw [Bool.or_eq_true] at isStart
    rcases isStart with isAlpha | isUnderscore
    · refine ⟨by simp [Number.isNameLike, Char.isAlphanum, isAlpha], ?_⟩
      rw [Bool.eq_false_iff]
      intro isDigit
      rw [Words.not_isAlpha_of_isDigit isDigit] at isAlpha
      cases isAlpha
    · rw [of_decide_eq_true isUnderscore]
      decide
  next outside =>
    have large : 128 ≤ c.toNat := by omega
    refine ⟨by simp [Number.isNameLike, large], ?_⟩
    rw [Bool.eq_false_iff]
    intro isDigit
    have range := Char.isDigit_iff_toNat.mp isDigit
    have nine : '9'.toNat = 57 := rfl
    omega

theorem ne_of_isIdentifierStart {c d : Char} (isStart : Text.isIdentifierStart c = true)
    (noStart : Text.isIdentifierStart d = false) : c ≠ d := by
  rintro rfl
  rw [noStart] at isStart
  cases isStart

theorem forall_isNameLike {name : List Char} (isName : Text.isIdentifier name = true) :
    ∀ c ∈ name, Number.isNameLike c = true := by
  cases name with
  | nil => cases isName
  | cons c cs =>
    simp only [Text.isIdentifier, Bool.and_eq_true, List.all_eq_true] at isName
    rw [List.forall_mem_cons]
    exact ⟨(isNameLike_of_isIdentifierStart isName.1).1,
      fun d isLater => isNameLike_of_isIdentifierPart (isName.2 d isLater)⟩

theorem word_of_identifier {name rest : List Char} (isName : Text.isIdentifier name = true)
    (follows : Follows rest) : word (name ++ rest) = some (.name (String.ofList name), rest) := by
  have all := forall_isNameLike isName
  have taken : (name ++ rest).takeWhile Number.isNameLike = name := by
    rw [List.takeWhile_append_of_pos all]
    cases rest with
    | nil => simp
    | cons c cs => simp [(follows c rfl).1]
  have left : (name ++ rest).dropWhile Number.isNameLike = rest := by
    rw [List.dropWhile_append_of_pos all]
    cases rest with
    | nil => rfl
    | cons c cs => simp [(follows c rfl).1]
  have noMark : rest.head?.any isMark = false := by
    cases rest with
    | nil => rfl
    | cons c cs => exact (follows c rfl).2
  rw [word, taken, left]
  simp only [noMark, Bool.false_and, Bool.false_eq_true, if_false, isName, if_true]

/-- A name is read in one step. -/
theorem lines_name {name : List Char} (isName : Text.isIdentifier name = true)
    (follows : Follows rest) :
    lines (fuel + 1) false blocks opened (name ++ rest) =
      (lines fuel false blocks opened rest).map (.name (String.ofList name) :: ·) := by
  have isWord := word_of_identifier isName follows
  cases name with
  | nil => cases isName
  | cons c cs =>
    simp only [Text.isIdentifier, Bool.and_eq_true] at isName
    obtain ⟨nameLike, noDigit⟩ := isNameLike_of_isIdentifierStart isName.1
    have other : ∀ d, Text.isIdentifierStart d = false → c ≠ d :=
      fun _ noStart => ne_of_isIdentifierStart isName.1 noStart
    rw [List.cons_append] at isWord ⊢
    rw [lines.eq_def]
    -- what begins a name begins neither a blank, a comment, a line end, a number nor a text
    simp only [other ' ' (by decide), other '\t' (by decide), other '\x0c' (by decide),
      other '#' (by decide), other '\n' (by decide), other '\\' (by decide),
      other '.' (by decide), other '\'' (by decide), other '"' (by decide), noDigit, isMark,
      nameLike, isWord, decide_false, Bool.or_self, Bool.false_and, Bool.false_eq_true, if_false,
      if_true]
    show (lines fuel false blocks opened rest).bind
      (fun more => some (.name (String.ofList (c :: cs)) :: more)) = _
    rw [Option.map_eq_bind]
    rfl

theorem exists_of_name {name : List Char} (isName : Text.isIdentifier name = true)
    (follows : Follows rest)
    (scanned : lines fuel false blocks opened (name ++ rest) = some found) :
    ∃ less more, lines less false blocks opened rest = some more ∧
      found = .name (String.ofList name) :: more := by
  cases fuel with
  | zero => cases scanned
  | succ fuel =>
    rw [lines_name isName follows, Option.map_eq_some_iff] at scanned
    obtain ⟨more, later, same⟩ := scanned
    exact ⟨fuel, more, later, same.symm⟩

/-- A text that is scanned to some tokens wherever it stands in a line and ends where names do. -/
def Gives (text : List Char) (tokens : List Token) : Prop :=
  ∀ ⦃fuel opened rest found⦄, Follows rest → lines fuel false [] opened (text ++ rest) = some found →
    ∃ less more, lines less false [] opened rest = some more ∧ found = tokens ++ more

theorem gives_name {name : List Char} (isName : Text.isIdentifier name = true) :
    Gives name [.name (String.ofList name)] :=
  fun _ _ _ _ follows scanned => exists_of_name isName follows scanned

theorem follows_cons {c : Char} (plain : c ∈ ['[', ']', ' ', ',', '\n']) (rest : List Char) :
    Follows (c :: rest) := by
  rintro d isHead
  cases isHead
  simp only [List.mem_cons, List.not_mem_nil, or_false] at plain
  rcases plain with rfl | rfl | rfl | rfl | rfl <;> decide

/-- A text in brackets after a name. -/
theorem gives_bracketed {name text : List Char} {tokens : List Token}
    (isName : Text.isIdentifier name = true) (given : Gives text tokens) :
    Gives (name ++ '[' :: text ++ [']'])
      (.name (String.ofList name) :: .sign "[" :: tokens ++ [.sign "]"]) := by
  intro fuel opened rest found ends scanned
  have parts : name ++ '[' :: text ++ [']'] ++ rest = name ++ '[' :: (text ++ ']' :: rest) := by simp
  rw [parts] at scanned
  obtain ⟨_, _, afterName, rfl⟩ := exists_of_name isName (follows_cons (by decide) _) scanned
  obtain ⟨_, _, inside, rfl⟩ := exists_of_open afterName
  obtain ⟨_, _, afterText, rfl⟩ := given (follows_cons (by decide) _) inside
  obtain ⟨less, more, outside, rfl⟩ := exists_of_close afterText
  exact ⟨less, more, outside, by simp⟩

/-- A sign that opens and closes nothing, with a blank after it. -/
theorem exists_of_sign {c : Char} {s : String} (isSign : sign? (c :: ' ' :: rest) = some (s, ' ' :: rest))
    (plain : (c, s) ∈ [(',', ","), ('|', "|")])
    (scanned : lines fuel false blocks opened (c :: ' ' :: rest) = some found) :
    ∃ less more, lines less false blocks opened rest = some more ∧ found = .sign s :: more := by
  cases fuel with
  | zero => cases scanned
  | succ fuel =>
    rw [lines_plain isSign plain] at scanned
    obtain ⟨more, later, same⟩ := Option.map_eq_some_iff.mp scanned
    obtain ⟨less, behind⟩ := exists_of_blank later
    exact ⟨less, more, behind, same.symm⟩

/-- Two names with a comma between them. -/
theorem gives_pair {first second : List Char} (isFirst : Text.isIdentifier first = true)
    (isSecond : Text.isIdentifier second = true) :
    Gives (first ++ ',' :: ' ' :: second)
      [.name (String.ofList first), .sign ",", .name (String.ofList second)] := by
  intro fuel opened rest found ends scanned
  rw [List.append_assoc] at scanned
  obtain ⟨_, _, afterFirst, rfl⟩ := exists_of_name isFirst (follows_cons (by decide) _) scanned
  obtain ⟨_, _, afterComma, rfl⟩ := exists_of_sign rfl (by decide) afterFirst
  obtain ⟨less, more, afterSecond, rfl⟩ := exists_of_name isSecond ends afterComma
  exact ⟨less, more, afterSecond, rfl⟩

/-- A text before the mark of null. -/
theorem gives_nullable {text : List Char} {tokens : List Token} (given : Gives text tokens) :
    Gives (text ++ " | None".toList) (tokens ++ [.sign "|", .name "None"]) := by
  intro fuel opened rest found ends scanned
  have parts : text ++ " | None".toList ++ rest = text ++ ' ' :: '|' :: ' ' :: ("None".toList ++ rest) := by
    simp
  rw [parts] at scanned
  obtain ⟨_, _, afterText, rfl⟩ := given (follows_cons (by decide) _) scanned
  obtain ⟨_, afterBlank⟩ := exists_of_blank afterText
  obtain ⟨_, _, afterBar, rfl⟩ := exists_of_sign rfl (by decide) afterBlank
  obtain ⟨less, more, atEnd, rfl⟩ := exists_of_name (by decide) ends afterBar
  exact ⟨less, more, atEnd, by simp⟩

theorem feeds_of_inLine {text : List Char} (inLine : ∀ c ∈ text, c ≠ '\r' ∧ c ≠ '\n') :
    feeds text = text ++ ['\n'] := by
  have kept : feeds.go text = text := by
    induction text with
    | nil => rfl
    | cons c rest ih =>
      obtain ⟨⟨noReturn, _⟩, inRest⟩ := List.forall_mem_cons.mp inLine
      rw [feeds.go, ih inRest]
      · rintro _ rfl
        exact absurd rfl noReturn
      · rintro rfl
        exact absurd rfl noReturn
  have open_ : text.getLast? ≠ some '\n' := by
    intro ended
    exact (inLine _ (List.mem_of_getLast? ended)).2 rfl
  rw [feeds]
  simp only [kept, open_, if_false]

section Starts

variable {c : Char} (isStart : Text.isIdentifierStart c = true)
include isStart

theorem column_of_start (rest : List Char) :
    column ⟨0, 0⟩ 0 (c :: rest) = some (⟨0, 0⟩, c :: rest) := by
  have other : ∀ d, Text.isIdentifierStart d = false → c ≠ d :=
    fun _ noStart => ne_of_isIdentifierStart isStart noStart
  rw [column]
  · rfl
  · rintro _ ⟨rfl, _⟩
    exact absurd rfl (other ' ' (by decide))
  · rintro _ ⟨rfl, _⟩
    exact absurd rfl (other '\t' (by decide))
  · rintro _ ⟨rfl, _⟩
    exact absurd rfl (other '\x0c' (by decide))
  · rintro _ ⟨rfl, _⟩
    exact absurd rfl (other '\\' (by decide))

/-- A line that begins with a name is not indented, so it is scanned from its first character. -/
theorem lines_start {fuel : Nat} {cs : List Char} :
    lines (fuel + 1) true [] [] (c :: cs) = lines fuel false [] [] (c :: cs) := by
  have other : ∀ d, Text.isIdentifierStart d = false → c ≠ d :=
    fun _ noStart => ne_of_isIdentifierStart isStart noStart
  rw [lines.eq_def]
  simp only [column_of_start isStart, Option.bind_eq_bind, Option.bind_some]
  split
  next isNil => cases isNil
  next isFeed => exact absurd (List.cons.inj isFeed).1 (other '\n' (by decide))
  next isComment => exact absurd (List.cons.inj isComment).1 (other '#' (by decide))
  next =>
    show (lines fuel false [] [] (c :: cs)).bind (fun more => some ([] ++ more)) = _
    simp

theorem exists_of_lineStart {fuel : Nat} {cs : List Char} {found : List Token}
    (scanned : lines fuel true [] [] (c :: cs) = some found) :
    ∃ less, lines less false [] [] (c :: cs) = some found := by
  cases fuel with
  | zero => cases scanned
  | succ fuel =>
    rw [lines_start isStart] at scanned
    exact ⟨fuel, scanned⟩

end Starts

theorem eq_newline_of_end {fuel : Nat} {found : List Token}
    (scanned : lines fuel false [] [] ['\n'] = some found) : found = [.newline] := by
  cases fuel with
  | zero => cases scanned
  | succ fuel =>
    obtain ⟨last, atEnd, same⟩ := Option.bind_eq_some_iff.mp scanned
    cases same
    cases fuel with
    | zero => cases atEnd
    | succ fuel =>
      cases atEnd
      rfl

/-- A line that begins with a name has the tokens of its text, and one for its end. -/
theorem scan_of_gives {text : List Char} {tokens found : List Token} (given : Gives text tokens)
    (inLine : ∀ c ∈ text, c ≠ '\r' ∧ c ≠ '\n') (starts : ∃ c ∈ text.head?, Text.isIdentifierStart c)
    (scanned : scan text = some found) : found = tokens ++ [.newline] := by
  rw [scan, feeds_of_inLine inLine] at scanned
  split at scanned
  · cases scanned
  obtain ⟨c, isHead, isStart⟩ := starts
  cases text with
  | nil => cases isHead
  | cons d cs =>
    cases isHead
    obtain ⟨_, inside⟩ := exists_of_lineStart isStart scanned
    obtain ⟨_, _, atEnd, rfl⟩ := given (follows_cons (by decide) _) inside
    rw [eq_newline_of_end atEnd]

end SchemaCodegen.Python.Token
