import SchemaCodegen.Model
import SchemaCodegen.Python.Expression

/-!
# Python types and conversions

The type of a field, the expression that reads a field's value from decoded JSON (`cast`), and the
expression that gives it back (`dump`). Items of arrays are converted one by one, each under the
name `e`.
-/

namespace SchemaCodegen.Python

/-- The type of a kind that needs nothing else. -/
def simpleType? : Kind → Option String
  | .string => some "str"
  | .integer => some "int"
  | .float => some "float"
  | .boolean => some "bool"
  | .dateTime => some "datetime"
  | .map => some "dict[str, Any]"
  | _ => none

/-- The type of a field that is no array: a simple one, a class, or anything. -/
def baseType (kind : Kind) (target : Option String) : String :=
  match simpleType? kind with
  | some name => name
  | none => ((FieldType.plain kind target).referenced?).getD "Any"

/-- The type of a field, null aside. -/
def typeText : FieldType → String
  | .plain kind target => baseType kind target
  | .nested .array _ item => "list[" ++ typeText item ++ "]"
  | .nested kind target _ => baseType kind target

/-- The type of a field that may be null. Anything may be null. -/
def nullableType (type : FieldType) (nullable : Bool) : String :=
  if nullable && typeText type ≠ "Any" then typeText type ++ " | None" else typeText type

/-! ## Building blocks -/

/-- The null value. -/
def null : Expr := .literal .none

/-- A text as a constant. -/
def quoted (s : String) : Expr := .literal (.text s)

/-- A method of a value. -/
def method (value : Expr) (name : String) (arguments : List Expr) : Expr :=
  .call (.attribute value name) arguments []

/-- A value that is taken to be of a type. -/
def taken (type source : Expr) : Expr := .call (.name "cast") [type, source] []

/-- A value unless its source is null. -/
def guarded (source value : Expr) : Expr := .conditional value (.isNot source null) null

/-- A value unless its source is null, if it may be. -/
def guardIf (nullable : Bool) (source value : Expr) : Expr :=
  if nullable then guarded source value else value

/-- The name of an item. -/
def item : Expr := .name "e"

/-! ## Conversions -/

/-- Reads a value that is no array. -/
def castBase (kind : Kind) (target : Option String) (nullable : Bool) (source : Expr) : Expr :=
  match kind with
  | .string | .integer | .float | .boolean =>
    let type : Expr := .name ((simpleType? kind).getD "")
    taken (if nullable then .binary .bitOr type null else type) source
  | .dateTime =>
    guardIf nullable source
      (method (.name "datetime") "fromisoformat" [taken (.name "str") source])
  | _ =>
    match (FieldType.plain kind target).referenced? with
    | some name =>
      guardIf nullable source (method (.name name) "from_dict" [taken (.name "dict") source])
    | none => source

/-- Reads the value of a field from decoded JSON. -/
def cast : FieldType → Bool → Expr → Expr
  | .plain kind target, nullable, source => castBase kind target nullable source
  | .nested .array _ type, nullable, source =>
    guardIf nullable source (.each (cast type false item) "e" (taken (.name "list") source))
  | .nested kind target _, nullable, source => castBase kind target nullable source

/-- Whether reading a value takes it to be of a type. -/
def castTakes : FieldType → Bool
  | .plain kind target => takes kind target
  | .nested .array _ _ => true
  | .nested kind target _ => takes kind target
where
  /-- The same for a value that is no array. -/
  takes (kind : Kind) (target : Option String) : Bool :=
    match kind with
    | .string | .integer | .float | .boolean | .dateTime => true
    | _ => ((FieldType.plain kind target).referenced?).isSome

/-- Gives back a value that is no array. -/
def dumpBase (kind : Kind) (nullable : Bool) (value : Expr) : Expr :=
  match kind with
  | .dateTime => guardIf nullable value (method value "isoformat" [])
  | .reference => guardIf nullable value (method value "to_dict" [])
  | _ => value

/-- Gives back the value of a field for JSON. Arrays whose items stay as they are stay so too. -/
def dump : FieldType → Bool → Expr → Expr
  | .plain kind _, nullable, value => dumpBase kind nullable value
  | .nested .array _ type, nullable, value =>
    if type.isConverted then guardIf nullable value (.each (dump type false item) "e" value)
    else value
  | .nested kind _ _, nullable, value => dumpBase kind nullable value

end SchemaCodegen.Python
