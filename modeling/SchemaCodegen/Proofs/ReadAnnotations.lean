import SchemaCodegen.Proofs.Annotation

/-!
# When annotations can be read

An annotation is read unless too many brackets are open in it at once, where the innermost type is a
name that stands for an expression. Each piece of it takes as many steps of the scanner as it has
tokens and blanks, so the steps that are allowed for a text are always enough.
-/

namespace SchemaCodegen.Python

/-! ## Scanning -/

namespace Token

/-- A text that is scanned to some tokens in some steps if no more than two hundred brackets are open
at once, of which `height` are its own; otherwise it is refused. -/
structure Scans (text : List Char) (tokens : List Token) (steps height : Nat) : Prop where
  few : steps ≤ text.length
  scanned : ∀ fuel opened rest, Follows rest → opened.length + height ≤ 200 →
    lines (fuel + steps) false [] opened (text ++ rest) =
      (lines fuel false [] opened rest).map (tokens ++ ·)
  refused : ∀ fuel opened rest, Follows rest → 200 < opened.length + height → opened.length ≤ 200 →
    lines fuel false [] opened (text ++ rest) = none

theorem scans_name {name : List Char} (isName : Text.isIdentifier name = true) :
    Scans name [.name (String.ofList name)] 1 0 where
  few := by
    cases name with
    | nil => cases isName
    | cons c cs => simp
  scanned := by
    intro fuel opened rest follows _
    exact lines_name isName follows
  refused := by
    intro fuel opened rest _ tooMany few
    omega

/-- A text in brackets after a name. -/
theorem scans_bracketed {name text : List Char} {tokens : List Token} {steps height : Nat}
    (isName : Text.isIdentifier name = true) (scans : Scans text tokens steps height) :
    Scans (name ++ '[' :: text ++ [']'])
      (.name (String.ofList name) :: .sign "[" :: tokens ++ [.sign "]"]) (steps + 3) (height + 1) where
  few := by
    have some_ : 0 < name.length := by
      cases name with
      | nil => cases isName
      | cons c cs => simp
    have fewer := scans.few
    simp only [List.length_append, List.length_cons, List.length_nil]
    omega
  scanned := by
    intro fuel opened rest follows most
    have parts : name ++ '[' :: text ++ [']'] ++ rest = name ++ '[' :: (text ++ ']' :: rest) := by simp
    have notFull : ¬200 ≤ opened.length := by omega
    have inside := scans.scanned (fuel + 1) ("]" :: opened) (']' :: rest) (follows_cons (by decide) _)
      (by rw [List.length_cons]; omega)
    rw [parts, show fuel + (steps + 3) = fuel + 1 + steps + 1 + 1 by omega,
      lines_name isName (follows_cons (by decide) _), lines_open, if_neg notFull, inside, lines_close]
    cases lines fuel false [] opened rest <;> simp
  refused := by
    intro fuel opened rest follows tooMany few
    have parts : name ++ '[' :: text ++ [']'] ++ rest = name ++ '[' :: (text ++ ']' :: rest) := by simp
    rw [parts]
    cases fuel with
    | zero => rfl
    | succ fuel =>
      rw [lines_name isName (follows_cons (by decide) _)]
      cases fuel with
      | zero => rfl
      | succ fuel =>
        rw [lines_open]
        split
        next => rfl
        next notFull =>
          have inside := scans.refused fuel ("]" :: opened) (']' :: rest) (follows_cons (by decide) _)
            (by rw [List.length_cons]; omega) (by rw [List.length_cons]; omega)
          rw [inside]
          rfl

/-- Two names with a comma between them. -/
theorem scans_pair {first second : List Char} (isFirst : Text.isIdentifier first = true)
    (isSecond : Text.isIdentifier second = true) :
    Scans (first ++ ',' :: ' ' :: second)
      [.name (String.ofList first), .sign ",", .name (String.ofList second)] 4 0 where
  few := by
    have someFirst := (scans_name isFirst).few
    have someSecond := (scans_name isSecond).few
    simp only [List.length_append, List.length_cons]
    omega
  scanned := by
    intro fuel opened rest follows _
    have parts : first ++ ',' :: ' ' :: second ++ rest = first ++ ',' :: ' ' :: (second ++ rest) := by
      simp
    rw [parts, lines_name isFirst (follows_cons (by decide) _), lines_plain rfl (by decide), lines_blank,
      lines_name isSecond follows]
    cases lines fuel false [] opened rest <;> rfl
  refused := by
    intro fuel opened rest _ tooMany few
    omega

/-- A text before the mark of null. -/
theorem scans_nullable {text : List Char} {tokens : List Token} {steps height : Nat}
    (scans : Scans text tokens steps height) :
    Scans (text ++ " | None".toList) (tokens ++ [.sign "|", .name "None"]) (steps + 4) height where
  few := by
    have fewer := scans.few
    simp
    omega
  scanned := by
    intro fuel opened rest follows most
    have parts : text ++ " | None".toList ++ rest = text ++ ' ' :: '|' :: ' ' :: ("None".toList ++ rest) := by
      simp
    have isName : Text.isIdentifier "None".toList = true := by decide
    have front := scans.scanned (fuel + 4) opened (' ' :: '|' :: ' ' :: ("None".toList ++ rest))
      (follows_cons (by decide) _) most
    rw [parts, show fuel + (steps + 4) = fuel + 4 + steps by omega, front, lines_blank,
      lines_plain rfl (by decide), lines_blank, lines_name isName follows]
    cases lines fuel false [] opened rest <;> simp
  refused := by
    intro fuel opened rest follows tooMany few
    have parts : text ++ " | None".toList ++ rest = text ++ ' ' :: ("| None".toList ++ rest) := by simp
    rw [parts]
    exact scans.refused fuel opened _ (follows_cons (by decide) _) tooMany few

/-- A line that begins with a name is scanned to its tokens and its end, or refused for its brackets. -/
theorem scan_of_scans {text : List Char} {tokens : List Token} {steps height : Nat}
    (scans : Scans text tokens steps height)
    (inLine : ∀ c ∈ text, c ≠ '\r' ∧ c ≠ '\n') (noZero : '\x00' ∉ text)
    (starts : ∃ c ∈ text.head?, Text.isIdentifierStart c) :
    scan text = if height ≤ 200 then some (tokens ++ [.newline]) else none := by
  obtain ⟨c, isHead, isStart⟩ := starts
  obtain ⟨cs, rfl⟩ := List.head?_eq_some_iff.mp isHead
  have noZeroInLine : (c :: cs ++ ['\n']).contains '\x00' = false := by
    rw [Bool.eq_false_iff]
    intro isIn
    rcases List.mem_append.mp (List.contains_iff_mem.mp isIn) with isChar | isEnd
    · exact noZero isChar
    · exact absurd isEnd (by decide)
  have few := scans.few
  obtain ⟨fuel, enough⟩ := Nat.exists_eq_add_of_le'
    (show steps + 3 ≤ 2 * (c :: cs ++ ['\n']).length + 2 by
      rw [List.length_append, List.length_singleton]
      omega)
  have atEnd : lines (fuel + 2) false [] [] ['\n'] = some [.newline] := rfl
  rw [scan, feeds_of_inLine inLine]
  simp only [noZeroInLine, Bool.false_eq_true, if_false]
  rw [enough, show fuel + (steps + 3) = fuel + 2 + steps + 1 by omega, List.cons_append,
    lines_start isStart, ← List.cons_append]
  split
  next low =>
    rw [scans.scanned _ _ _ (follows_cons (by decide) _) (by simpa using low), atEnd]
    rfl
  next high =>
    exact scans.refused _ _ _ (follows_cons (by decide) _) (by simpa using high) (by simp)

end Token

/-! ## Reading -/

/-- A text that is scanned with some brackets open at once. -/
structure IsScanned (text : String) (height : Nat) : Prop where
  noZero : '\x00' ∉ text.toList
  given : ∃ tokens steps, Token.Scans text.toList tokens steps height

theorem IsScanned.name {text : String} (isName : Text.isIdentifier text.toList = true) :
    IsScanned text 0 := by
  refine ⟨?_, _, _, Token.scans_name isName⟩
  intro isChar
  exact absurd (Token.forall_isNameLike isName _ isChar) (by decide)

theorem IsScanned.anyObject : IsScanned "dict[str, Any]" 1 := by
  have pair := @Token.scans_pair "str".toList "Any".toList (by decide) (by decide)
  exact ⟨by decide, _, _, @Token.scans_bracketed "dict".toList _ _ _ _ (by decide) pair⟩

theorem IsScanned.lists {text : String} {height : Nat} (base : IsScanned text height) (depth : Nat) :
    IsScanned (listsOf "list[" "]" depth text) (height + depth) := by
  induction depth with
  | zero => exact base
  | succ depth ih =>
    have parts : ("list[" ++ listsOf "list[" "]" depth text ++ "]").toList =
        "list".toList ++ '[' :: (listsOf "list[" "]" depth text).toList ++ [']'] := by
      simp
    obtain ⟨tokens, steps, scans⟩ := ih.given
    have whole := @Token.scans_bracketed "list".toList _ _ _ _ (by decide) scans
    rw [← parts] at whole
    rw [listsOf]
    refine ⟨?_, _, _, whole⟩
    rw [parts]
    simpa using ih.noZero

theorem IsScanned.nullable {text : String} {height : Nat} (base : IsScanned text height) :
    IsScanned (text ++ " | None") height := by
  obtain ⟨tokens, steps, scans⟩ := base.given
  have both := Token.scans_nullable scans
  rw [← String.toList_append] at both
  refine ⟨?_, _, _, both⟩
  rw [String.toList_append, List.mem_append, not_or]
  exact ⟨base.noZero, by decide⟩

/-- What begins with a name is not indented. -/
theorem isIndented_of_starts {text : List Char}
    (starts : ∃ c ∈ text.head?, Text.isIdentifierStart c) : Reading.isIndented text = false := by
  obtain ⟨c, isHead, isStart⟩ := starts
  have noBlank : c ≠ ' ' ∧ c ≠ '\t' :=
    ⟨Token.ne_of_isIdentifierStart isStart (by decide), Token.ne_of_isIdentifierStart isStart (by decide)⟩
  rw [Reading.isIndented, Option.mem_def.mp isHead]
  simp [noBlank]

/-- A line that begins with a name is read exactly if its tokens are and no more than two hundred
brackets are open at once. -/
theorem exists_read_iff {text : String} {height : Nat} {tokens : List Token} {value : Option Expr}
    (inLine : ∀ c ∈ text.toList, c ≠ '\r' ∧ c ≠ '\n')
    (starts : ∃ c ∈ text.toList.head?, Text.isIdentifierStart c) (scanned : IsScanned text height)
    (gives : Token.Gives text.toList tokens) (whole : Reading.whole (tokens ++ [.newline]) = value) :
    (∃ e, Expr.read text = .ok e) ↔ value.isSome = true ∧ height ≤ 200 := by
  obtain ⟨found, steps, scans⟩ := scanned.given
  have ofText := Token.scan_of_scans scans inLine scanned.noZero starts
  rw [Expr.read, isIndented_of_starts starts]
  simp only [Bool.false_eq_true, if_false, ofText]
  by_cases low : height ≤ 200
  · rw [if_pos low] at ofText ⊢
    rw [Token.scan_of_gives gives inLine starts ofText, Option.bind_some, whole]
    cases value <;> simp [low]
  · simp [low]

/-- An operand is read exactly if it stands for an expression and has few enough brackets. -/
theorem IsOperand.exists_read {text : String} {value : Option Expr} {height : Nat}
    (operand : IsOperand text value) (scanned : IsScanned text height) :
    (∃ e, Expr.read text = .ok e) ↔ value.isSome = true ∧ height ≤ 200 := by
  obtain ⟨tokens, cost, gives, reads⟩ := operand.given
  exact exists_read_iff operand.inLine operand.starts scanned gives reads.whole

theorem IsOperand.exists_read_nullable {text : String} {value : Option Expr} {height : Nat}
    (operand : IsOperand text value) (scanned : IsScanned text height) :
    (∃ e, Expr.read (text ++ " | None") = .ok e) ↔ value.isSome = true ∧ height ≤ 200 := by
  obtain ⟨tokens, cost, gives, reads⟩ := operand.given
  obtain ⟨inLine, starts⟩ := operand.line_nullable
  have both := Token.gives_nullable gives
  rw [← String.toList_append] at both
  have whole := reads.whole_nullable
  rw [show [Token.sign "|", .name "None", .newline] = [.sign "|", .name "None"] ++ [.newline] from rfl,
    ← List.append_assoc] at whole
  rw [exists_read_iff inLine starts scanned.nullable both whole, Option.isSome_map]

/-! ## Annotations -/

/-- How many brackets are open at once in the annotation of a type: one for each array, and one in the
type of objects. -/
def brackets (type : FieldType) : Nat := (if type.coreKind = .map then 1 else 0) + type.depth

theorem isScanned_base {kind : Kind} {target : Option String}
    (plain : ∀ name ∈ (FieldType.plain kind target).referenced?,
      Text.isIdentifier name.toList = true) :
    IsScanned (baseType kind target) (if kind = .map then 1 else 0) := by
  by_cases isMap : kind = .map
  · subst isMap
    exact IsScanned.anyObject
  · rw [if_neg isMap]
    exact IsScanned.name (isIdentifier_baseType isMap plain)

/-- The annotation of a field whose reference is an identifier can be read exactly if that stands for
an expression and no more than two hundred brackets are open at once. -/
theorem exists_writes_iff {field : Field}
    (plain : ∀ name ∈ field.type.coreReference?, Text.isIdentifier name.toList = true) :
    (∃ type, Writes field type) ↔
      (baseExpr? field.type.coreKind field.type.coreTarget).isSome = true ∧
        brackets field.type ≤ 200 := by
  have operand := (isOperand_base plain).lists field.type.depth
  have scanned := (isScanned_base plain).lists field.type.depth
  rw [← typeText_eq] at operand scanned
  have inLists : ((baseExpr? field.type.coreKind field.type.coreTarget).map
      (listsIn field.type.depth)).isSome =
      (baseExpr? field.type.coreKind field.type.coreTarget).isSome := Option.isSome_map
  rw [brackets, ← inLists]
  unfold Writes nullableType
  split
  next => exact operand.exists_read_nullable scanned
  next => exact operand.exists_read scanned

end SchemaCodegen.Python
