import SchemaCodegen.Proofs.Scanning
import SchemaCodegen.Proofs.WrittenTypes

/-!
# What annotations are read as

The text of a type is the text of its innermost type in brackets of lists, perhaps with the mark of
null. If the innermost type is a name, it is read as that name in subscripts of lists.
-/

namespace SchemaCodegen.Python.Reading

/-! ## Reading operands -/

/-- Tokens that can follow an operand, which nothing is applied to then. -/
inductive Ends : List Token → Prop
  | nothing : Ends []
  | line {rest : List Token} : Ends (.newline :: rest)
  | bracket {rest : List Token} : Ends (.sign "]" :: rest)
  | bar {rest : List Token} : Ends (.sign "|" :: rest)

/-- Tokens that can follow a whole expression. -/
inductive Closes : List Token → Prop
  | nothing : Closes []
  | line {rest : List Token} : Closes (.newline :: rest)
  | bracket {rest : List Token} : Closes (.sign "]" :: rest)

theorem Closes.ends {rest : List Token} (closes : Closes rest) : Ends rest := by
  cases closes with
  | nothing => exact .nothing
  | line => exact .line
  | bracket => exact .bracket

theorem trailers_of_ends {rest : List Token} (ends : Ends rest) (fuel : Nat) (e : Expr) :
    trailers (fuel + 1) e rest = some (e, rest) := by
  cases ends <;> rfl

/-- Tokens of an operand that begin with a name, and what they are read as with some depth of
nesting. -/
structure Reads (tokens : List Token) (value : Option Expr) (cost : Nat) : Prop where
  cheap : cost ≤ 8 * tokens.length
  begins : ∃ text more, tokens = .name text :: more
  read : ∀ fuel rest, Ends rest → raised (fuel + cost) (tokens ++ rest) = value.map (·, rest)

theorem raised_of_trailers {fuel : Nat} {tokens rest : List Token} {value : Option Expr}
    (ends : Ends rest)
    (read : (atom fuel tokens).bind (fun base => trailers fuel base.1 base.2) = value.map (·, rest)) :
    raised (fuel + 1) tokens = value.map (·, rest) := by
  rw [raised.eq_def]
  simp only [Option.bind_eq_bind]
  cases first : atom fuel tokens with
  | none =>
    rw [first] at read
    cases value with
    | none => rfl
    | some e => cases read
  | some base =>
    rw [first, Option.bind_some] at read
    rw [Option.bind_some, read]
    cases value with
    | none => rfl
    | some e => cases ends <;> rfl

theorem reads_name (text : String) : Reads [.name text] (word? text) 2 := by
  refine ⟨by simp, ⟨text, [], rfl⟩, ?_⟩
  intro fuel rest ends
  apply raised_of_trailers ends
  show ((word? text).map (·, rest)).bind _ = _
  cases word? text with
  | none => rfl
  | some e => exact trailers_of_ends ends fuel e

section
variable {tokens rest : List Token} {value : Option Expr} {cost : Nat}

theorem signed_of_reads (reads : Reads tokens value cost) (ends : Ends rest) (fuel : Nat) :
    signed (fuel + cost + 1) (tokens ++ rest) = value.map (·, rest) := by
  obtain ⟨text, more, rfl⟩ := reads.begins
  exact reads.read fuel rest ends

theorem further_of_closes (closes : Closes rest) (fuel : Nat) (level : Level) (left : Expr) :
    further (fuel + 1) level left rest = some (left, rest) := by
  cases closes <;> rfl

theorem operand_of_reads (reads : Reads tokens value cost) (closes : Closes rest) (fuel : Nat)
    (level : Level) : operand (fuel + cost + 2) level (tokens ++ rest) = value.map (·, rest) := by
  rw [operand.eq_def]
  show (signed (fuel + cost + 1) (tokens ++ rest)).bind _ = _
  rw [signed_of_reads reads closes.ends]
  cases value with
  | none => rfl
  | some e => exact further_of_closes closes _ level e

theorem expression_of_operand {fuel : Nat} (closes : Closes rest)
    (read : operand fuel Level.operand tokens = value.map (·, rest)) :
    expression (fuel + 1) tokens = value.map (·, rest) := by
  rw [expression.eq_def]
  show (operand fuel Level.operand tokens).bind _ = _
  rw [read]
  cases value with
  | none => rfl
  | some e => cases closes <;> rfl

theorem items_of_expression {fuel : Nat} (closes : Closes rest)
    (read : expression fuel tokens = value.map (·, rest)) :
    items (fuel + 1) tokens = value.map (·, rest) := by
  rw [items.eq_def]
  show (expression fuel tokens).bind _ = _
  rw [read]
  cases value with
  | none => rfl
  | some e => cases closes <;> rfl

/-- A subscript of a name by what is read. -/
theorem reads_bracketed (name : String) (isName : word? name = some (.name name))
    (reads : Reads tokens value cost) :
    Reads (.name name :: .sign "[" :: tokens ++ [.sign "]"])
      (value.map (.subscript (.name name))) (cost + 6) := by
  have cheap := reads.cheap
  refine ⟨?_, ⟨name, _, rfl⟩, ?_⟩
  · simp only [List.length_cons, List.length_append, List.length_nil]
    omega
  intro fuel rest ends
  apply raised_of_trailers ends
  -- the index is read through all levels of an expression, each with one less of fuel
  have closes : Closes (.sign "]" :: rest) := .bracket
  have index := items_of_expression closes
    (expression_of_operand closes (operand_of_reads reads closes fuel Level.operand))
  have parts : .name name :: .sign "[" :: tokens ++ [.sign "]"] ++ rest =
      .name name :: .sign "[" :: (tokens ++ .sign "]" :: rest) := by simp
  rw [parts]
  show ((word? name).map (·, _)).bind (fun base => trailers (fuel + cost + 5) base.1 base.2) = _
  rw [isName]
  show (items (fuel + cost + 4) (tokens ++ .sign "]" :: rest)).bind _ = _
  rw [index]
  cases value with
  | none => rfl
  | some e => exact trailers_of_ends ends _ _

/-- What is read, or null. -/
theorem items_of_bar (reads : Reads tokens value cost) (fuel : Nat) :
    items (fuel + cost + 9) (tokens ++ [.sign "|", .name "None", .newline]) =
      (value.map (.binary .bitOr · null)).map (·, [.newline]) := by
  have ends : Ends [.sign "|", .name "None", .newline] := .bar
  have left := signed_of_reads reads ends (fuel + 5)
  rw [show fuel + 5 + cost + 1 = fuel + cost + 6 by omega] at left
  rw [items.eq_def]
  show (expression (fuel + cost + 8) _).bind _ = _
  have read : expression (fuel + cost + 8) (tokens ++ [.sign "|", .name "None", .newline]) =
      (value.map (.binary .bitOr · null)).map (·, [.newline]) := by
    rw [expression.eq_def]
    show (operand (fuel + cost + 7) Level.operand _).bind _ = _
    rw [operand.eq_def]
    show ((signed (fuel + cost + 6) _).bind _).bind _ = _
    rw [left]
    cases value <;> rfl
  rw [read]
  cases value <;> rfl

end

/-- The fuel of a whole text is enough for all that is read with less. -/
theorem whole_of_items {tokens : List Token} {value : Option Expr} {cost : Nat}
    (read : ∀ fuel, items (fuel + cost) tokens = value.map (·, [.newline]))
    (cheap : cost ≤ 16 * tokens.length + 16) : whole tokens = value := by
  obtain ⟨fuel, enough⟩ := Nat.exists_eq_add_of_le' cheap
  rw [whole, enough, read]
  cases value <;> rfl

/-- A line of an operand is read as what the operand is. -/
theorem Reads.whole {tokens : List Token} {value : Option Expr} {cost : Nat}
    (reads : Reads tokens value cost) : whole (tokens ++ [.newline]) = value := by
  have closes : Closes [.newline] := .line
  have cheap := reads.cheap
  apply @whole_of_items _ _ (cost + 4)
  · intro fuel
    exact items_of_expression closes
      (expression_of_operand closes (operand_of_reads reads closes fuel Level.operand))
  · rw [List.length_append]
    omega

/-- A line of an operand with the mark of null is read as a choice. -/
theorem Reads.whole_nullable {tokens : List Token} {value : Option Expr} {cost : Nat}
    (reads : Reads tokens value cost) :
    Reading.whole (tokens ++ [.sign "|", .name "None", .newline]) =
      value.map (.binary .bitOr · null) := by
  have cheap := reads.cheap
  apply @whole_of_items _ _ (cost + 9)
  · intro fuel
    exact items_of_bar reads fuel
  · rw [List.length_append]
    omega

/-- The type of objects with any values. -/
theorem reads_anyObject : Reads [.name "dict", .sign "[", .name "str", .sign ",", .name "Any", .sign "]"]
    (some (.subscript (.name "dict") (.tuple [.name "str", .name "Any"]))) 20 := by
  refine ⟨by decide, ⟨_, _, rfl⟩, ?_⟩
  intro fuel rest ends
  apply raised_of_trailers ends
  show trailers (fuel + 18) _ rest = _
  exact trailers_of_ends ends _ _

end SchemaCodegen.Python.Reading

namespace SchemaCodegen.Python

/-! ## Annotations -/

/-- A text that stands for an operand: it gives tokens that are read as such. -/
structure IsOperand (text : String) (value : Option Expr) : Prop where
  inLine : ∀ c ∈ text.toList, c ≠ '\r' ∧ c ≠ '\n'
  starts : ∃ c ∈ text.toList.head?, Text.isIdentifierStart c
  given : ∃ tokens cost, Token.Gives text.toList tokens ∧ Reading.Reads tokens value cost

theorem IsOperand.name {text : String} (isName : Text.isIdentifier text.toList = true) :
    IsOperand text (Reading.word? text) := by
  have isStart : ∃ c ∈ text.toList.head?, Text.isIdentifierStart c = true := by
    cases cs : text.toList with
    | nil =>
      rw [cs] at isName
      cases isName
    | cons c cs =>
      simp only [cs, Text.isIdentifier, Bool.and_eq_true] at isName
      exact ⟨c, rfl, isName.1⟩
  refine ⟨?_, isStart, _, 2, Token.gives_name isName, ?_⟩
  · intro c isChar
    have nameLike := Token.forall_isNameLike isName c isChar
    constructor
    · rintro rfl
      exact absurd nameLike (by decide)
    · rintro rfl
      exact absurd nameLike (by decide)
  · rw [String.ofList_toList]
    exact Reading.reads_name text

theorem IsOperand.list {text : String} {value : Option Expr} (base : IsOperand text value) :
    IsOperand ("list[" ++ text ++ "]") (value.map (.subscript (.name "list"))) := by
  have parts : ("list[" ++ text ++ "]").toList = "list".toList ++ '[' :: text.toList ++ [']'] := by
    simp
  obtain ⟨tokens, cost, given, reads⟩ := base.given
  refine ⟨?_, ?_, _, _, ?_, Reading.reads_bracketed "list" rfl reads⟩
  · simp only [String.toList_append, List.forall_mem_append]
    exact ⟨⟨by simp, base.inLine⟩, by simp⟩
  · rw [parts]
    exact ⟨'l', rfl, by decide⟩
  · rw [parts]
    exact Token.gives_bracketed (by decide) given

/-- An expression in subscripts of lists. -/
def listsIn : Nat → Expr → Expr
  | 0, e => e
  | depth + 1, e => .subscript (.name "list") (listsIn depth e)

theorem IsOperand.lists {text : String} {value : Option Expr} (base : IsOperand text value)
    (depth : Nat) : IsOperand (listsOf "list[" "]" depth text) (value.map (listsIn depth)) := by
  induction depth with
  | zero =>
    have same : value.map (listsIn 0) = value := Option.map_id'
    rw [same]
    exact base
  | succ depth ih =>
    have nested := ih.list
    rw [Option.map_map] at nested
    exact nested

theorem scan_of_read {text : String} {e : Expr} (read : Expr.read text = .ok e) :
    ∃ tokens, Token.scan text.toList = some tokens ∧ Reading.whole tokens = some e := by
  unfold Expr.read at read
  split at read
  · cases read
  · split at read
    next found =>
      cases read
      exact Option.bind_eq_some_iff.mp found
    next => cases read

/-- An operand is read as what it stands for. -/
theorem IsOperand.read {text : String} {value : Option Expr} (base : IsOperand text value) {e : Expr}
    (read : Expr.read text = .ok e) : value = some e := by
  obtain ⟨tokens, cost, given, reads⟩ := base.given
  obtain ⟨found, scanned, whole⟩ := scan_of_read read
  obtain rfl := Token.scan_of_gives given base.inLine base.starts scanned
  exact reads.whole.symm.trans whole

/-- With the mark of null behind it, a text still is a line that begins with a name. -/
theorem IsOperand.line_nullable {text : String} {value : Option Expr} (base : IsOperand text value) :
    (∀ c ∈ (text ++ " | None").toList, c ≠ '\r' ∧ c ≠ '\n') ∧
      ∃ c ∈ (text ++ " | None").toList.head?, Text.isIdentifierStart c = true := by
  constructor
  · rw [String.toList_append, List.forall_mem_append]
    exact ⟨base.inLine, by simp⟩
  · obtain ⟨c, isHead, isStart⟩ := base.starts
    refine ⟨c, ?_, isStart⟩
    rw [String.toList_append, List.head?_append, isHead]
    rfl

/-- An operand with the mark of null is read as a choice. -/
theorem IsOperand.read_nullable {text : String} {value : Option Expr} (base : IsOperand text value)
    {e : Expr} (read : Expr.read (text ++ " | None") = .ok e) :
    ∃ operand, value = some operand ∧ e = .binary .bitOr operand null := by
  obtain ⟨tokens, cost, given, reads⟩ := base.given
  have both := Token.gives_nullable given
  rw [← String.toList_append] at both
  obtain ⟨inLine, starts⟩ := base.line_nullable
  obtain ⟨found, scanned, whole⟩ := scan_of_read read
  obtain rfl := Token.scan_of_gives both inLine starts scanned
  rw [List.append_assoc] at whole
  obtain ⟨operand, isOperand, rfl⟩ := Option.map_eq_some_iff.mp (reads.whole_nullable.symm.trans whole)
  exact ⟨operand, isOperand, rfl⟩

theorem IsOperand.anyObject : IsOperand "dict[str, Any]" (some anyObject) := by
  have pair := @Token.gives_pair "str".toList "Any".toList (by decide) (by decide)
  have whole := @Token.gives_bracketed "dict".toList _ _ (by decide) pair
  exact ⟨by simp, ⟨'d', rfl, by decide⟩, _, _, whole, Reading.reads_anyObject⟩

/-- The expression of the innermost type of a field: that of objects, or a name. A constant is no
name of a type, and a keyword is no expression. -/
def baseExpr? (kind : Kind) (target : Option String) : Option Expr :=
  if kind = .map then some anyObject else Reading.word? (baseType kind target)

/-- The text of an innermost type other than that of objects is a name if a reference is one. -/
theorem isIdentifier_baseType {kind : Kind} {target : Option String} (noMap : kind ≠ .map)
    (plain : ∀ name ∈ (FieldType.plain kind target).referenced?,
      Text.isIdentifier name.toList = true) :
    Text.isIdentifier (baseType kind target).toList = true := by
  cases referenced : (FieldType.plain kind target).referenced? with
  | none =>
    rw [baseType, referenced]
    cases kind <;> first | decide | exact absurd rfl noMap
  | some name =>
    obtain ⟨rfl, _⟩ := FieldType.referenced_eq_some referenced
    rw [baseType, referenced]
    exact plain name referenced

theorem isOperand_base {kind : Kind} {target : Option String}
    (plain : ∀ name ∈ (FieldType.plain kind target).referenced?,
      Text.isIdentifier name.toList = true) :
    IsOperand (baseType kind target) (baseExpr? kind target) := by
  by_cases isMap : kind = .map
  · subst isMap
    exact IsOperand.anyObject
  · rw [baseExpr?, if_neg isMap]
    exact IsOperand.name (isIdentifier_baseType isMap plain)

/-- An annotation is the expression of the innermost type in subscripts of lists, perhaps with the
choice of null. -/
theorem Writes.eq_lists {field : Field} {type : Expr} (written : Writes field type)
    (plain : ∀ name ∈ field.type.coreReference?, Text.isIdentifier name.toList = true) :
    ∃ base, baseExpr? field.type.coreKind field.type.coreTarget = some base ∧
      (type = listsIn field.type.depth base ∨
        type = .binary .bitOr (listsIn field.type.depth base) null) := by
  have operand := (isOperand_base plain).lists field.type.depth
  rw [← typeText_eq] at operand
  unfold Writes nullableType at written
  split at written
  next =>
    obtain ⟨nested, same, rfl⟩ := operand.read_nullable written
    obtain ⟨base, isBase, rfl⟩ := Option.map_eq_some_iff.mp same
    exact ⟨base, isBase, .inr rfl⟩
  next =>
    obtain ⟨base, isBase, rfl⟩ := Option.map_eq_some_iff.mp (operand.read written)
    exact ⟨base, isBase, .inl rfl⟩

end SchemaCodegen.Python
