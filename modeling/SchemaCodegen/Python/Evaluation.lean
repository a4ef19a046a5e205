import SchemaCodegen.Json.Value
import SchemaCodegen.Python.Declaration

/-!
# Evaluation of generated classes

What the expressions that generated classes are made of evaluate to, and how a class reads an object
and gives it back. An expression that has no value in Python, or that no generated class holds, has
none here. Points in time and the other classes of a unit come from an environment, and `cast` gives
back what it is given.
-/

namespace SchemaCodegen.Python

/-- The functions and types that generated classes use by name. -/
inductive Builtin where
  | cast
  | datetime
  | str
  | int
  | float
  | bool
  | list
  | dict
  deriving DecidableEq, Repr

/-- The function or type of a name. -/
def Builtin.ofName? : String → Option Builtin
  | "cast" => some .cast
  | "datetime" => some .datetime
  | "str" => some .str
  | "int" => some .int
  | "float" => some .float
  | "bool" => some .bool
  | "list" => some .list
  | "dict" => some .dict
  | _ => none

/-- A value while generated code runs, with points in time of type `τ`. -/
inductive Object (τ : Type) where
  | null
  | bool (b : Bool)
  | int (n : Int)
  | float (x : Double)
  | str (s : String)
  | list (items : List (Object τ))
  | dict (entries : List (Object τ × Object τ))
  | moment (t : τ)
  /-- An object of a generated class. -/
  | model (cls : String) (attributes : List (String × Object τ))
  /-- A class by its name. -/
  | cls (name : String)
  /-- The class whose function runs. -/
  | own (cls : ClassDef)
  | builtin (b : Builtin)
  /-- A type or another. -/
  | either (left right : Object τ)
  /-- A method of a value. -/
  | bound (value : Object τ) (method : String)

/-- Whether a name is private to a class. -/
def isPrivate (name : String) : Bool := ['_', '_'].isPrefixOf name.toList

namespace Object

variable {τ : Type}

mutual
/-- A decoded JSON value. -/
def ofJson : Json.Value → Object τ
  | .null => .null
  | .bool b => .bool b
  | .int n => .int n
  | .float x => .float x
  | .str s => .str s
  | .arr items => .list (ofItems items)
  | .obj members => .dict (ofMembers members)
/-- Decoded items of an array. -/
def ofItems : List Json.Value → List (Object τ)
  | [] => []
  | item :: rest => ofJson item :: ofItems rest
/-- Decoded members of an object. -/
def ofMembers : List (String × Json.Value) → List (Object τ × Object τ)
  | [] => []
  | (key, value) :: rest => (.str key, ofJson value) :: ofMembers rest
end

/-- A constant. -/
def ofLiteral : Literal → Option (Object τ)
  | .none => some .null
  | .bool b => some (.bool b)
  | .int n => some (.int n)
  | .float x => some (.float x)
  | .text s => some (.str s)
  | .imaginary _ | .ellipsis => none

/-- A truth value or whole number as a number: as keys they are not told apart. -/
def number? : Object τ → Option Int
  | .bool b => some (if b then 1 else 0)
  | .int n => some n
  | _ => none

/-- Whether two keys are the same. -/
def isSameKey (a b : Object τ) : Bool :=
  match a, b with
  | .null, .null => true
  | .str s, .str t => s = t
  | a, b =>
    match a.number?, b.number? with
    | some m, some n => m = n
    | _, _ => false

/-- The value at a key of a dictionary. -/
def lookUp (entries : List (Object τ × Object τ)) (key : Object τ) : Option (Object τ) :=
  match entries with
  | [] => none
  | (k, value) :: rest => if k.isSameKey key then some value else lookUp rest key

/-- Writes a value at a key of a dictionary. -/
def put (entries : List (Object τ × Object τ)) (key value : Object τ) :
    List (Object τ × Object τ) :=
  match entries with
  | [] => [(key, value)]
  | (k, old) :: rest =>
    if k.isSameKey key then (k, value) :: rest else (k, old) :: put rest key value

/-- What stands in brackets behind a value: a key of a dictionary. -/
def item : Object τ → Object τ → Option (Object τ)
  | .dict entries, key => lookUp entries key
  | _, _ => none

/-- An attribute of an object, or else a method of it. Inside of classes a private name is another
one. -/
def member (object : Object τ) (name : String) : Option (Object τ) :=
  if isPrivate name then none
  else
    match object with
    | .model _ attributes => some ((Entries.get? attributes name).getD (.bound object name))
    | _ => some (.bound object name)

/-- Whether a value stands for a type. -/
def isType : Object τ → Bool
  | .null | .cls _ | .own _ | .builtin _ | .either _ _ => true
  | _ => false

/-- One type or another. -/
def orType (left right : Object τ) : Option (Object τ) :=
  if left.isType && right.isType then some (.either left right) else none

/-- Whether a value is another than null; no other identities are asked for. -/
def isNot : Object τ → Object τ → Option (Object τ)
  | .null, .null => some (.bool false)
  | _, .null => some (.bool true)
  | _, _ => none

/-- What a truth value chooses. -/
def choose (test : Object τ) (body otherwise : Option (Object τ)) : Option (Object τ) :=
  match test with
  | .bool b => if b then body else otherwise
  | _ => none

/-- The list of what each item of a list becomes. -/
def mapItems (object : Object τ) (f : Object τ → Option (Object τ)) : Option (Object τ) :=
  match object with
  | .list items => .list <$> items.mapM f
  | _ => none

end Object

/-- What generated code finds around it: points in time, and classes with the functions that read
objects of them and write them. -/
structure Environment (τ : Type) where
  /-- The point in time of a text, if it is one. -/
  moment? : String → Option τ
  /-- The text of a point in time. -/
  momentText : τ → String
  /-- Whether there is a class of the name. -/
  isClass : String → Bool
  /-- The object of a class that is read from a dictionary. -/
  read : String → Object τ → Option (Object τ)
  /-- The dictionary that is written of an object of a class. -/
  write : String → List (String × Object τ) → Option (Object τ)

/-! ## Classes -/

/-- The name and the default of a field. -/
def Part.field? : Part → Option (String × Option Expr)
  | .field name _ value => some (name, value)
  | _ => none

/-- The function of a name. -/
def Part.function? (name : String) : Part → Option Function
  | .function f => if f.name = name then some f else none
  | _ => none

namespace ClassDef

variable {τ : Type}

/-- The fields of a class with their defaults. -/
def fields (cls : ClassDef) : Entries (Option Expr) := cls.parts.filterMap (·.field?)

/-- Whether the class is made from its fields, which are given by name. -/
def isDataClass (cls : ClassDef) : Bool :=
  cls.decorators.any fun
    | .call (.name "dataclass") [] [("kw_only", .literal (.bool true))] => true
    | _ => false

/-- The attributes of an object: for each field what is given, or its default. -/
def attributes (given : Entries (Object τ)) (fields : Entries (Option Expr)) :
    Option (List (String × Object τ)) :=
  fields.mapM fun (name, default) =>
    match given.get? name, default with
    | some value, _ => some (name, value)
    | none, some (.literal value) => (name, ·) <$> Object.ofLiteral value
    | none, _ => none

/-- Makes an object of the class from its fields. -/
def construct (cls : ClassDef) (given : Entries (Object τ)) : Option (Object τ) :=
  if cls.isDataClass && cls.fields.keys.Nodup && !cls.fields.keys.any isPrivate && given.keys.Nodup &&
      given.keys.all cls.fields.has then
    .model cls.name <$> attributes given cls.fields
  else none

/-- The function of a name: the last one, unless a field has the name. -/
def function? (cls : ClassDef) (name : String) : Option Function :=
  if cls.fields.has name then none else cls.parts.reverse.findSome? (·.function? name)

end ClassDef

/-! ## Expressions -/

/-- What names stand for, innermost first. -/
abbrev Scope (τ : Type) := Entries (Object τ)

namespace Environment

variable {τ : Type}

/-- What a name stands for outside of functions. Units redefine none of the names that they use. -/
def global (env : Environment τ) (name : String) : Option (Object τ) :=
  match Builtin.ofName? name with
  | some b => some (.builtin b)
  | none => if env.isClass name then some (.cls name) else none

/-- Calls a function, a class or a method. -/
def call (env : Environment τ) (function : Object τ) (arguments : List (Object τ))
    (named : Entries (Object τ)) : Option (Object τ) :=
  match function, arguments, named with
  | .builtin .cast, [_, value], [] => some value
  | .own cls, [], given => cls.construct given
  | .bound (.builtin .datetime) "fromisoformat", [.str s], [] => .moment <$> env.moment? s
  | .bound (.moment t) "isoformat", [], [] => some (.str (env.momentText t))
  | .bound (.dict entries) "get", [key], [] => some ((Object.lookUp entries key).getD .null)
  | .bound (.dict entries) "get", [key, default], [] =>
    some ((Object.lookUp entries key).getD default)
  | .bound (.cls name) "from_dict", [value], [] => env.read name value
  | .bound (.model cls attributes) "to_dict", [], [] => env.write cls attributes
  | _, _, _ => none

end Environment

namespace Expr

variable {τ : Type} (env : Environment τ)

mutual
/-- The value of an expression. The items of `each` are evaluated with its variable in scope, but its
source is not. -/
def eval (scope : Scope τ) : Expr → Option (Object τ)
  | .name id => scope.get? id <|> env.global id
  | .literal value => Object.ofLiteral value
  | .attribute value member => do (← eval scope value).member member
  | .subscript value index => do (← eval scope value).item (← eval scope index)
  | .call function arguments named => do
    let function ← eval scope function
    let arguments ← evalAll scope arguments
    let named ← evalNamed scope named
    env.call function arguments named
  | .binary .bitOr left right => do (← eval scope left).orType (← eval scope right)
  | .isNot left right => do (← eval scope left).isNot (← eval scope right)
  | .conditional body test otherwise => do
    (← eval scope test).choose (eval scope body) (eval scope otherwise)
  | .each element variableName source => do
    (← eval scope source).mapItems fun item => eval ((variableName, item) :: scope) element
  | .list items => .list <$> evalAll scope items
  | .dict entries => .dict <$> evalEntries scope [] entries
  | .unary _ _ | .binary _ _ _ | .lambda _ _ | .tuple _ => none
/-- The values of expressions. -/
def evalAll (scope : Scope τ) : List Expr → Option (List (Object τ))
  | [] => some []
  | e :: rest => do return (← eval scope e) :: (← evalAll scope rest)
/-- The values of arguments by name. -/
def evalNamed (scope : Scope τ) : List (String × Expr) → Option (Entries (Object τ))
  | [] => some []
  | (key, e) :: rest => do return (key, ← eval scope e) :: (← evalNamed scope rest)
/-- A dictionary after some entries. -/
def evalEntries (scope : Scope τ) (before : List (Object τ × Object τ)) :
    List (Expr × Expr) → Option (List (Object τ × Object τ))
  | [] => some before
  | (key, value) :: rest => do
    let key ← eval scope key
    let value ← eval scope value
    evalEntries scope (Object.put before key value) rest
end

end Expr

/-! ### Values by those of the parts -/

section

variable {τ : Type} {env : Environment τ} {scope : Scope τ}

theorem eval_call {function : Expr} {arguments : List Expr} {named : List (String × Expr)}
    {f : Object τ} {objects : List (Object τ)} {given : Entries (Object τ)}
    (isFunction : function.eval env scope = some f)
    (areArguments : Expr.evalAll env scope arguments = some objects)
    (areNamed : Expr.evalNamed env scope named = some given) :
    (Expr.call function arguments named).eval env scope = env.call f objects given := by
  rw [Expr.eval, isFunction, areArguments, areNamed]
  rfl

theorem evalAll_cons {e : Expr} {rest : List Expr} {object : Object τ} {objects : List (Object τ)}
    (first : e.eval env scope = some object) (later : Expr.evalAll env scope rest = some objects) :
    Expr.evalAll env scope (e :: rest) = some (object :: objects) := by
  rw [Expr.evalAll, first, later]
  rfl

theorem eval_attribute {value : Expr} {name : String} {object member : Object τ}
    (given : value.eval env scope = some object) (isMember : object.member name = some member) :
    (Expr.attribute value name).eval env scope = some member := by
  rw [Expr.eval, given]
  exact isMember

theorem eval_each {element source : Expr} {name : String} {items : List (Object τ)}
    (given : source.eval env scope = some (.list items)) :
    (Expr.each element name source).eval env scope =
      .list <$> items.mapM fun item => element.eval env ((name, item) :: scope) := by
  rw [Expr.eval, given]
  rfl

end

/-! ## Functions -/

variable {τ : Type}

/-- What a function gives back. -/
def Step.run (env : Environment τ) (scope : Scope τ) : List Step → Option (Object τ)
  | [] => some .null
  | .assign name value :: rest => do run env ((name, ← Expr.eval env scope value) :: scope) rest
  | .ret value :: _ => Expr.eval env scope value

/-- Calls a function with arguments for all of its parameters. -/
def Function.run (env : Environment τ) (f : Function) (arguments : List (Object τ)) :
    Option (Object τ) :=
  if f.parameters.length = arguments.length then
    Step.run env ((f.parameters.map Prod.fst).zip arguments) f.body
  else none

/-- What a function without a name that stands in the body of a class gives for an argument. The names of
the class are no names in it. -/
def Expr.apply (env : Environment τ) (function : Expr) (argument : Object τ) : Option (Object τ) :=
  match function with
  | .lambda parameter body => body.eval env [(parameter, argument)]
  | _ => none

/-- Whether a function is given the class that it is called on. -/
def Function.isOfClass (f : Function) : Bool :=
  match f.decorators with
  | [.name "classmethod"] => true
  | _ => false

namespace ClassDef

/-- The object that a class reads from a value, by its function for that. -/
def read (env : Environment τ) (cls : ClassDef) (value : Object τ) : Option (Object τ) := do
  let f ← cls.function? "from_dict"
  if f.isOfClass then f.run env [.own cls, value] else none

/-- The value that a class writes of one of its objects, by its function for that. -/
def write (env : Environment τ) (cls : ClassDef) (object : Object τ) : Option (Object τ) := do
  let f ← cls.function? "to_dict"
  match object with
  | .model name _ => if name = cls.name && f.decorators.isEmpty then f.run env [object] else none
  | _ => none

end ClassDef

/-- An environment in which the classes are those of a unit; references from one to the next are
followed to a depth. -/
def Environment.linked (env : Environment τ) (classes : List ClassDef) : Nat → Environment τ
  | 0 =>
    { env with
      isClass := fun name => classes.any (·.name = name)
      read := fun _ _ => none
      write := fun _ _ => none }
  | depth + 1 =>
    { env with
      isClass := fun name => classes.any (·.name = name)
      read := fun name value => do
        (← classes.find? (·.name = name)).read (linked env classes depth) value
      write := fun name attributes => do
        (← classes.find? (·.name = name)).write (linked env classes depth) (.model name attributes) }

/-! ## Names that are defined more than once -/

/-- The name that a statement assigns. -/
def Step.assigned? : Step → Option String
  | .assign name _ => some name
  | .ret _ => none

/-- The names that stand for the values of a function itself, also before it assigns them. -/
def Function.variables (f : Function) : List String :=
  f.parameters.map Prod.fst ++ f.body.filterMap (·.assigned?)

/-- Whether a name is another one inside of a class: it is private, and the class has a name to be put in
front of it. -/
def isPrivateTo (cls name : String) : Bool :=
  isPrivate name && !(['_', '_'].isSuffixOf name.toList) && cls.toList.any (· ≠ '_')

/-- The class that a name stands for once classes are defined one after the other: the last of it. -/
def lastNamed? (classes : List ClassDef) (name : String) : Option ClassDef :=
  classes.reverse.find? (·.name = name)

/-- Whether a name stands for what is outside of a function of a class: it is no variable of the function,
and not another name inside of the class. -/
def Function.sees (f : Function) (cls : ClassDef) (name : String) : Bool :=
  name ∉ f.variables && !isPrivateTo cls.name name

/-- What a function of a class finds outside of it once classes are defined. -/
def Function.classesAround (f : Function) (cls : ClassDef) (classes : List ClassDef) : Scope τ :=
  (classes.map fun other => (other.name, .cls other.name)).filter fun entry => f.sees cls entry.1

/-- What code finds once classes are defined one after the other, of which a library reads the objects. A
class hides what else has its name. -/
def Environment.among (env : Environment τ) (library : ClassDef → Object τ → Option (Object τ))
    (classes : List ClassDef) : Environment τ :=
  { env with
    isClass := fun _ => false
    read := fun name value => do library (← lastNamed? classes name) value }

/-- Calls a function of a class on the class with a value, once classes are defined. -/
def ClassDef.callAmong (env : Environment τ) (library : ClassDef → Object τ → Option (Object τ))
    (classes : List ClassDef) (cls : ClassDef) (f : Function) (value : Object τ) : Option (Object τ) :=
  if f.isOfClass && f.parameters.length = 2 then
    Step.run (env.among library classes)
      ((f.parameters.map Prod.fst).zip [.own cls, value] ++ f.classesAround cls classes) f.body
  else none

end SchemaCodegen.Python
