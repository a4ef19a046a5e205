import SchemaCodegen.Python.Declaration
import SchemaCodegen.Schema.Union
import SchemaCodegen.Settings.Config

/-!
# Helpers of generated units

The names that the classes of a unit take from other modules, and the imports that bring them in.
A unit imports a helper if one of its types or classes asks for it.
-/

namespace SchemaCodegen.Python

/-- A name that units import. -/
inductive Helper where
  | annotations
  | abc
  | dataclass
  | field
  | datetime
  | any
  | cast
  | config
  | dataclassJson
  deriving DecidableEq, Repr

namespace Helper

/-- The module of a helper. -/
def module : Helper → String
  | .annotations => "__future__"
  | .abc => "abc"
  | .dataclass | .field => "dataclasses"
  | .datetime => "datetime"
  | .any | .cast => "typing"
  | .config | .dataclassJson => "dataclasses_json"

/-- The name of a helper. -/
def name : Helper → String
  | .annotations => "annotations"
  | .abc => "ABC"
  | .dataclass => "dataclass"
  | .field => "field"
  | .datetime => "datetime"
  | .any => "Any"
  | .cast => "cast"
  | .config => "config"
  | .dataclassJson => "dataclass_json"

/-- The modules in the groups in which they are imported: what changes the language, what comes with
it, and the rest. -/
def groups : List (List (List Helper)) :=
  [[[.annotations]], [[.abc], [.dataclass, .field], [.datetime], [.any, .cast]],
    [[.config, .dataclassJson]]]

/-- The helpers that the annotation of a type asks for. -/
def ofType : FieldType → List Helper
  | .plain kind _ => ofKind kind
  | .nested .array _ item => ofType item
  | .nested kind _ _ => ofKind kind
where
  /-- The helpers of a type that is no array. -/
  ofKind : Kind → List Helper
    | .dateTime => [.datetime]
    | .map | .enum | .unknown => [.any]
    | _ => []

/-- The import of those helpers of one module that are used. -/
def importOf (used : List Helper) (helpers : List Helper) : List Import :=
  match helpers.filter used.contains with
  | [] => []
  | first :: more => [{ module := first.module, names := (first :: more).map name }]

/-- The imports of the used helpers, by groups; empty groups are left out. -/
def imports (used : List Helper) : List (List Import) :=
  (groups.map fun modules => modules.flatMap (importOf used)).filter (!·.isEmpty)

end Helper

end SchemaCodegen.Python
