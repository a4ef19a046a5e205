import SchemaCodegen.Model

/-!
# Dart types and conversions

The type of a field, the expression that reads a field's value from decoded JSON (`cast`), and the
expression that gives it back (`dump`). Items of arrays are converted one by one, each under the
name `e`.
-/

namespace SchemaCodegen.Dart

/-- The type of a kind that needs nothing else. -/
def simpleType? : Kind → Option String
  | .string => some "String"
  | .integer => some "int"
  | .float => some "double"
  | .boolean => some "bool"
  | .dateTime => some "DateTime"
  | .map => some "Map<String, dynamic>"
  | _ => none

/-- The type of a field that is no array: a simple one, a class, or anything. -/
def baseType (kind : Kind) (target : Option String) : String :=
  match simpleType? kind with
  | some name => name
  | none => ((FieldType.plain kind target).referenced?).getD "dynamic"

/-- The type of a field, null aside. -/
def typeText : FieldType → String
  | .plain kind target => baseType kind target
  | .nested .array _ item => s!"List<{typeText item}>"
  | .nested kind target _ => baseType kind target

/-- The type of a field that may be null. Anything may be null. -/
def nullableType (type : FieldType) (nullable : Bool) : String :=
  if nullable && typeText type ≠ "dynamic" then typeText type ++ "?" else typeText type

/-- A conversion. -/
inductive Expr where
  /-- An expression as it stands. -/
  | source (text : String)
  /-- A cast to a type. -/
  | asType (value : Expr) (type : String)
  /-- A function applied to one argument. -/
  | call (function : String) (argument : Expr)
  /-- A method without arguments, passed over for null if null-aware. -/
  | method (value : Expr) (nullAware : Bool) (name : String)
  /-- The list of converted items, each named `e`. -/
  | mapped (items : Expr) (nullAware : Bool) (body : Expr)
  /-- An expression in parentheses. -/
  | group (value : Expr)
  /-- A value unless its source is null. -/
  | guarded (source value : Expr)
  deriving DecidableEq, Repr

/-- The dot before a method. -/
def access (nullAware : Bool) : String := if nullAware then "?." else "."

/-- The text of a conversion. -/
def Expr.text : Expr → String
  | .source text => text
  | .asType value type => s!"{value.text} as {type}"
  | .call function argument => s!"{function}({argument.text})"
  | .method value nullAware name => value.text ++ access nullAware ++ name ++ "()"
  | .mapped items nullAware body =>
    items.text ++ access nullAware ++ "map((e) => " ++ body.text ++ ").toList()"
  | .group value => s!"({value.text})"
  | .guarded origin value => s!"{origin.text} != null ? {value.text} : null"

/-- A value unless its source is null, if it may be. -/
def guardIf (nullable : Bool) (source value : Expr) : Expr :=
  if nullable then .guarded source value else value

/-- Reads a value that is no array. -/
def castBase (kind : Kind) (target : Option String) (nullable : Bool) (source : Expr) : Expr :=
  match kind with
  | .string | .integer | .float | .boolean =>
    .asType source ((simpleType? kind).getD "" ++ if nullable then "?" else "")
  | .dateTime => guardIf nullable source (.call "DateTime.parse" (.asType source "String"))
  | _ =>
    match (FieldType.plain kind target).referenced? with
    | some name =>
      guardIf nullable source (.call (name ++ ".fromJson") (.asType source "Map<String, dynamic>"))
    | none => source

/-- Reads the value of a field from decoded JSON. -/
def cast : FieldType → Bool → Expr → Expr
  | .plain kind target, nullable, source => castBase kind target nullable source
  | .nested .array _ item, nullable, source =>
    guardIf nullable source
      (.mapped (.group (.asType source "List")) false (cast item false (.source "e")))
  | .nested kind target _, nullable, source => castBase kind target nullable source

/-- Gives back a value that is no array. -/
def dumpBase (kind : Kind) (nullable : Bool) (value : Expr) : Expr :=
  match kind with
  | .dateTime => .method value nullable "toIso8601String"
  | .reference => .method value nullable "toJson"
  | _ => value

/-- Gives back the value of a field for JSON. Arrays whose items stay as they are stay so too. -/
def dump : FieldType → Bool → Expr → Expr
  | .plain kind _, nullable, value => dumpBase kind nullable value
  | .nested .array _ item, nullable, value =>
    if item.isConverted then .mapped value nullable (dump item false (.source "e")) else value
  | .nested kind _ _, nullable, value => dumpBase kind nullable value

end SchemaCodegen.Dart
