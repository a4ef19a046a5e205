import SchemaCodegen.Proofs.Annotation
import SchemaCodegen.Proofs.Words

/-!
# Names that classes look up

Which names the expressions of a class look up. A helper that is looked up was noted by what asks for
it, apart from those in annotations: of these only the ones are noted that stand for the kind of the
innermost type.
-/

namespace SchemaCodegen.Python

/-! ## Names of expressions -/

namespace Expr

mutual
/-- The names that an expression looks up. -/
def names : Expr → List String
  | .name id => [id]
  | .literal _ => []
  | .attribute value _ => value.names
  | .subscript value index => value.names ++ index.names
  | .call function arguments named => function.names ++ namesOfAll arguments ++ namesOfNamed named
  | .unary _ operand => operand.names
  | .binary _ left right => left.names ++ right.names
  | .isNot left right => left.names ++ right.names
  | .conditional body test otherwise => body.names ++ test.names ++ otherwise.names
  | .lambda _ body => body.names
  | .each element _ source => element.names ++ source.names
  | .tuple items => namesOfAll items
  | .list items => namesOfAll items
  | .dict entries => namesOfEntries entries
/-- The names that some expressions look up. -/
def namesOfAll : List Expr → List String
  | [] => []
  | e :: rest => e.names ++ namesOfAll rest
/-- The names that arguments look up. -/
def namesOfNamed : List (String × Expr) → List String
  | [] => []
  | (_, e) :: rest => e.names ++ namesOfNamed rest
/-- The names that the entries of a dictionary look up. -/
def namesOfEntries : List (Expr × Expr) → List String
  | [] => []
  | (key, value) :: rest => key.names ++ value.names ++ namesOfEntries rest
end

theorem mem_namesOfNamed {name : String} {named : List (String × Expr)} :
    name ∈ namesOfNamed named ↔ ∃ argument ∈ named, name ∈ argument.2.names := by
  induction named with
  | nil => simp [namesOfNamed]
  | cons first rest ih => simp [namesOfNamed, ih]

theorem mem_namesOfEntries {name : String} {entries : List (Expr × Expr)} :
    name ∈ namesOfEntries entries ↔
      ∃ entry ∈ entries, name ∈ entry.1.names ∨ name ∈ entry.2.names := by
  induction entries with
  | nil => simp [namesOfEntries]
  | cons first rest ih => simp [namesOfEntries, ih, or_assoc]

end Expr

/-- The names that a statement looks up. -/
def Step.names : Step → List String
  | .assign _ value => value.names
  | .ret value => value.names

/-- The names that a function looks up. -/
def Function.names (f : Function) : List String :=
  f.decorators.flatMap (·.names) ++ f.parameters.flatMap (fun p => p.2.toList.flatMap (·.names)) ++
    f.returns.names ++ f.body.flatMap (·.names)

/-- The names that a part of a class looks up. -/
def Part.names : Part → List String
  | .documentation _ => []
  | .field _ type value => type.names ++ value.toList.flatMap (·.names)
  | .function f => f.names

/-- The names that a class looks up: its bases and those in its decorators and parts. -/
def ClassDef.names (cls : ClassDef) : List String :=
  cls.bases ++ cls.decorators.flatMap (·.names) ++ cls.parts.flatMap (·.names)

/-- The names that the classes of a module look up. -/
def Module.names (module : Module) : List String := module.classes.flatMap (·.names)

/-! ## Helpers by their names -/

namespace Helper

theorem name_inj {helper other : Helper} : helper.name = other.name ↔ helper = other := by
  cases helper <;> cases other <;> simp [name]

/-- The names that classes look up and that are not imported: parameters, variables and what comes
with the language. -/
def ownNames : List String :=
  ["e", "v", "cls", "data", "self", "variants", "classmethod", "str", "int", "float", "bool", "list",
    "dict"]

theorem name_not_mem_ownNames (helper : Helper) : helper.name ∉ ownNames := by
  cases helper <;> decide

/-- A helper is not among names that need no import. -/
theorem not_mem_of_own {names : List String} (own : ∀ name ∈ names, name ∈ ownNames)
    (helper : Helper) : helper.name ∉ names :=
  fun isName => helper.name_not_mem_ownNames (own _ isName)

theorem ofType_eq (type : FieldType) : ofType type = ofType.ofKind type.coreKind := by
  induction type using FieldType.rec_core with
  | plain kind target => rfl
  | nested kind target item noArray => cases kind <;> first | rfl | exact absurd rfl noArray
  | array target item ih => exact ih

/-- No words make a helper of another name, apart from the two that have capitals. -/
theorem eq_abc_or_any {helper : Helper} {front raw : String} (other : front ≠ helper.name)
    (same : helper.name = front ++ Words.pascalCase raw) : helper = .abc ∨ helper = .any := by
  have chars := congrArg String.toList same
  rw [String.toList_append, Words.toList_pascalCase] at chars
  -- the words behind the front begin with a character that is not small, if there are any
  cases capitals : Words.pascal raw.toList with
  | nil =>
    rw [capitals, List.append_nil] at chars
    exact absurd (String.toList_inj.mp chars.symm) other
  | cons c rest =>
    have isHead : (Words.pascal raw.toList).head? = some c := by rw [capitals]; rfl
    have notSmall := Words.isLower_head_pascal isHead
    have noUnderscore := Words.head_pascal_ne_underscore isHead
    have isChar : c ∈ helper.name.toList := by
      rw [chars, capitals]
      simp
    have small : helper ≠ .abc → helper ≠ .any →
        ∀ d ∈ helper.name.toList, d.isLower = true ∨ d = '_' := by
      cases helper <;> intro noAbc noAny <;> first | contradiction | simp [name]
    by_contra neither
    rw [not_or] at neither
    rcases small neither.1 neither.2 c isChar with isSmall | isUnderscore
    · rw [notSmall] at isSmall
      cases isSmall
    · exact noUnderscore isUnderscore

end Helper

/-! ## Conversions -/

theorem names_guardIf {nullable : Bool} {source value : Expr} {name : String}
    (looked : name ∈ (guardIf nullable source value).names) :
    name ∈ source.names ∨ name ∈ value.names := by
  cases nullable with
  | false => exact .inr looked
  | true => simpa [guardIf, guarded, null, Expr.names, or_comm] using looked

theorem names_dumpBase {kind : Kind} {nullable : Bool} {value : Expr} {name : String}
    (looked : name ∈ (dumpBase kind nullable value).names) : name ∈ value.names := by
  cases kind <;> first
    | exact looked
    | rcases names_guardIf looked with isValue | isResult
      · exact isValue
      · simpa [method, Expr.names, Expr.namesOfAll, Expr.namesOfNamed] using isResult

/-- Giving back a value looks up nothing but the value and its items. -/
theorem names_dump {type : FieldType} {nullable : Bool} {value : Expr} {name : String}
    (looked : name ∈ (dump type nullable value).names) : name ∈ value.names ∨ name = "e" := by
  induction type using FieldType.rec_core generalizing nullable value with
  | plain kind target => exact .inl (names_dumpBase looked)
  | nested kind target item noArray =>
    have same : dump (.nested kind target item) nullable value = dumpBase kind nullable value := by
      cases kind <;> first | rfl | exact absurd rfl noArray
    rw [same] at looked
    exact .inl (names_dumpBase looked)
  | array target type ih =>
    rw [dump] at looked
    split at looked
    next =>
      rcases names_guardIf looked with isValue | isResult
      · exact .inl isValue
      · rcases List.mem_append.mp isResult with isItem | isSource
        · rcases ih isItem with isName | isName
          · exact .inr (List.mem_singleton.mp isName)
          · exact .inr isName
        · exact .inl isSource
    next => exact .inl looked

/-- The names that reading a value of a type may look up, those of the value apart. -/
inductive CastName (type : FieldType) : String → Prop
  | own {name : String} : name ∈ Helper.ownNames → CastName type name
  | cast : castTakes type = true → CastName type "cast"
  | datetime : type.coreKind = .dateTime → CastName type "datetime"
  | reference {name : String} : type.coreReference? = some name → CastName type name

section CastName

variable {kind : Kind} {target : Option String} {item : FieldType} {name : String}

/-- The item of a type that is no array does not matter. -/
theorem CastName.nested (noArray : kind ≠ .array) (ofBase : CastName (.plain kind target) name) :
    CastName (.nested kind target item) name := by
  cases ofBase with
  | own isOwn => exact .own isOwn
  | cast takes =>
    refine .cast ?_
    cases kind <;> first | exact takes | exact absurd rfl noArray
  | datetime isDateTime =>
    refine .datetime ?_
    cases kind <;> first | exact isDateTime | exact absurd rfl noArray
  | reference isReference =>
    refine .reference ?_
    cases kind <;> first | exact isReference | exact absurd rfl noArray

/-- Reading an array reads its items. -/
theorem CastName.array (ofItem : CastName item name) : CastName (.nested .array target item) name := by
  cases ofItem with
  | own isOwn => exact .own isOwn
  | cast _ => exact .cast rfl
  | datetime isDateTime => exact .datetime isDateTime
  | reference isReference => exact .reference isReference

end CastName

theorem names_taken {type source : Expr} {name : String}
    (looked : name ∈ (taken type source).names) :
    name = "cast" ∨ name ∈ type.names ∨ name ∈ source.names := by
  simpa [taken, Expr.names, Expr.namesOfAll, Expr.namesOfNamed] using looked

/-- A value that is read by a method from what is taken to be of a type. -/
theorem names_readBy {reader member type name : String} {source : Expr}
    (looked : name ∈ (method (.name reader) member [taken (.name type) source]).names) :
    name = reader ∨ name = "cast" ∨ name = type ∨ name ∈ source.names := by
  simpa [method, taken, Expr.names, Expr.namesOfAll, Expr.namesOfNamed] using looked

theorem names_castBase {kind : Kind} {target : Option String} {nullable : Bool} {source : Expr}
    {name : String} (looked : name ∈ (castBase kind target nullable source).names) :
    name ∈ source.names ∨ CastName (.plain kind target) name := by
  cases kind with
  | string | integer | float | boolean =>
    rcases names_taken looked with rfl | isType | isSource
    · exact .inr (.cast rfl)
    · have isOwn : name ∈ Helper.ownNames := by
        cases nullable <;>
          simp [simpleType?, Expr.names, null] at isType <;> simp [Helper.ownNames, isType]
      exact .inr (.own isOwn)
    · exact .inl isSource
  | dateTime =>
    rcases names_guardIf looked with isSource | isValue
    · exact .inl isSource
    · rcases names_readBy isValue with rfl | rfl | rfl | isSource
      · exact .inr (.datetime rfl)
      · exact .inr (.cast rfl)
      · exact .inr (.own (by decide))
      · exact .inl isSource
  | reference =>
    cases isReference : (FieldType.plain .reference target).referenced? with
    | none =>
      simp only [castBase, isReference] at looked
      exact .inl looked
    | some referenced =>
      simp only [castBase, isReference] at looked
      rcases names_guardIf looked with isSource | isValue
      · exact .inl isSource
      · rcases names_readBy isValue with rfl | rfl | rfl | isSource
        · exact .inr (.reference isReference)
        · exact .inr (.cast (congrArg Option.isSome isReference))
        · exact .inr (.own (by decide))
        · exact .inl isSource
  | map | array | enum | unknown => exact .inl looked

/-- Reading a value looks up the value and the names for its type. -/
theorem names_cast {type : FieldType} {nullable : Bool} {source : Expr} {name : String}
    (looked : name ∈ (cast type nullable source).names) :
    name ∈ source.names ∨ CastName type name := by
  induction type using FieldType.rec_core generalizing nullable source with
  | plain kind target => exact names_castBase looked
  | nested kind target item noArray =>
    have same : cast (.nested kind target item) nullable source = castBase kind target nullable source := by
      cases kind <;> first | rfl | exact absurd rfl noArray
    rw [same] at looked
    exact (names_castBase looked).imp_right (.nested noArray)
  | array target item ih =>
    rw [cast] at looked
    rcases names_guardIf looked with isSource | isItems
    · exact .inl isSource
    · rcases List.mem_append.mp isItems with isItem | isList
      · rcases ih isItem with isName | ofItem
        · rw [List.mem_singleton.mp isName]
          exact .inr (.own (by decide))
        · exact .inr ofItem.array
      · rcases names_taken isList with rfl | isType | isSource
        · exact .inr (.cast rfl)
        · rw [List.mem_singleton.mp isType]
          exact .inr (.own (by decide))
        · exact .inl isSource

end SchemaCodegen.Python
