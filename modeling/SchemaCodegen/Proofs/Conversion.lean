import SchemaCodegen.Python.Conversion
import SchemaCodegen.Python.Evaluation
import Mathlib.Data.List.Forall2

/-!
# Conversions give values back

What `cast` reads of a value, `dump` gives back. Reading and giving back are built by recursion on
the type, with the same name for the items of every array; the relation between a value and what is
read of it carries the one over to the other.
-/

namespace SchemaCodegen.Python

variable {τ : Type}

/-! ## Decoded values -/

namespace Object

theorem ofItems_eq (items : List Json.Value) : (ofItems items : List (Object τ)) = items.map ofJson := by
  induction items with
  | nil => rfl
  | cons item rest ih => rw [ofItems, ih, List.map_cons]

theorem ofMembers_eq (members : Json.Members) :
    (ofMembers members : List (Object τ × Object τ)) =
      members.map fun member => (.str member.1, ofJson member.2) := by
  induction members with
  | nil => rfl
  | cons member rest ih => rw [ofMembers, ih, List.map_cons]

/-- A member of an object is found at its key. -/
theorem lookUp_ofMembers (members : Json.Members) (key : String) :
    lookUp (ofMembers members : List (Object τ × Object τ)) (.str key) =
      (Entries.get? members key).map ofJson := by
  induction members with
  | nil => rfl
  | cons member rest ih =>
    obtain ⟨k, value⟩ := member
    rw [ofMembers, lookUp, Entries.get?_cons, ih]
    by_cases same : k = key
    · simp [isSameKey, same]
    · simp [isSameKey, same]

end Object

/-! ## What values conform to -/

/-- Whether the class of a name reads a value as an object that gives the value back. -/
def Environment.ReadsBack (env : Environment τ) (name : String) (value : Object τ) : Prop :=
  env.global name = some (.cls name) ∧
    ∃ cls attributes, env.read name value = some (.model cls attributes) ∧
      Entries.get? attributes "to_dict" = none ∧ env.write cls attributes = some value

/-- Whether a value is of a kind. Numbers are not told apart; a text is a point in time if one is
read from it that has the text. -/
def FitsKind (env : Environment τ) (kind : Kind) (target : Option String) (value : Json.Value) :
    Prop :=
  match kind with
  | .string => ∃ s, value = .str s
  | .integer | .float => (∃ n, value = .int n) ∨ ∃ x, value = .float x
  | .boolean => ∃ b, value = .bool b
  | .dateTime => ∃ s t, value = .str s ∧ env.moment? s = some t ∧ env.momentText t = s
  | .map => ∃ members, value = .obj members
  | .reference =>
    ∃ name members, target = some name ∧ value = .obj members ∧ env.ReadsBack name (.ofJson value)
  | .array | .enum | .unknown => True

/-- Whether a value is of a type: an array has items of the item type only. -/
def Fits (env : Environment τ) : FieldType → Json.Value → Prop
  | .plain kind target, value => FitsKind env kind target value
  | .nested .array _ item, value => ∃ values, value = .arr values ∧ ∀ v ∈ values, Fits env item v
  | .nested kind target _, value => FitsKind env kind target value

/-- What is read of a value of a kind. -/
def DecodedKind (env : Environment τ) (kind : Kind) (value : Json.Value) (object : Object τ) : Prop :=
  match kind with
  | .dateTime => ∃ t, object = .moment t ∧ value = .str (env.momentText t)
  | .reference =>
    ∃ cls attributes, object = .model cls attributes ∧ Entries.get? attributes "to_dict" = none ∧
      env.write cls attributes = some (.ofJson value)
  | _ => object = .ofJson value

/-- What is read of a value of a type. -/
def Decoded (env : Environment τ) : FieldType → Json.Value → Object τ → Prop
  | .plain kind _, value, object => DecodedKind env kind value object
  | .nested .array _ item, value, object =>
    ∃ values objects, value = .arr values ∧ object = .list objects ∧
      List.Forall₂ (fun v o => Decoded env item v o) values objects
  | .nested kind _ _, value, object => DecodedKind env kind value object

/-! ## Building blocks -/

/-- The names that functions of a class give to what they work on. -/
def locals : List String := ["cls", "data", "self", "v", "e"]

/-- Whether a scope has no other names than those of functions of a class. -/
def Clear (scope : Scope τ) : Prop := ∀ name ∈ scope.keys, name ∈ locals

namespace Clear

theorem get?_eq_none {scope : Scope τ} (clear : Clear scope) {name : String} (free : name ∉ locals) :
    scope.get? name = none := by
  induction scope with
  | nil => rfl
  | cons entry rest ih =>
    obtain ⟨key, value⟩ := entry
    have other : key ≠ name := by
      rintro rfl
      exact free (clear key (List.mem_cons_self ..))
    rw [Entries.get?_cons, if_neg other]
    exact ih fun key isKey => clear key (List.mem_cons_of_mem _ isKey)

theorem item {scope : Scope τ} (clear : Clear scope) (object : Object τ) :
    Clear (("e", object) :: scope) := by
  intro name isName
  rcases List.mem_cons.mp isName with same | later
  · subst same
    show "e" ∈ locals
    decide
  · exact clear name later

end Clear

section

variable {env : Environment τ} {scope : Scope τ}

/-- A name that is not in scope is that of a function, a type or a class. -/
theorem eval_global (clear : Clear scope) {name : String} (free : name ∉ locals) :
    (Expr.name name).eval env scope = env.global name := by
  rw [Expr.eval, clear.get?_eq_none free]
  rfl

theorem eval_builtin (clear : Clear scope) {name : String} (free : name ∉ locals) {b : Builtin}
    (isBuiltin : Builtin.ofName? name = some b) :
    (Expr.name name).eval env scope = some (.builtin b) := by
  rw [eval_global clear free, Environment.global, isBuiltin]

/-- What is taken to be of a type stays as it is. -/
theorem eval_taken (clear : Clear scope) {type source : Expr} {t object : Object τ}
    (isType : type.eval env scope = some t) (given : source.eval env scope = some object) :
    (taken type source).eval env scope = some object := by
  have isCast : (Expr.name "cast").eval env scope = some (.builtin .cast) :=
    eval_builtin clear (by decide) rfl
  rw [taken, eval_call isCast (evalAll_cons isType (evalAll_cons given rfl)) rfl]
  rfl

/-- A method is called on a value that has no attribute of its name. -/
theorem eval_method {value : Expr} {name : String} {arguments : List Expr} {object : Object τ}
    {objects : List (Object τ)} (given : value.eval env scope = some object)
    (isMethod : object.member name = some (.bound object name))
    (areArguments : Expr.evalAll env scope arguments = some objects) :
    (method value name arguments).eval env scope = env.call (.bound object name) objects [] := by
  rw [method, eval_call (eval_attribute given isMethod) areArguments rfl]

/-- A guarded value is null if its source is. -/
theorem eval_guarded_null {source value : Expr} (given : source.eval env scope = some .null) :
    (guarded source value).eval env scope = some .null := by
  rw [guarded, Expr.eval, Expr.eval, given]
  rfl

/-- A guard lets a value pass if its source is not null. -/
theorem eval_guardIf {nullable : Bool} {source value : Expr} {object : Object τ}
    (given : source.eval env scope = some object) (isSet : object ≠ .null) :
    (guardIf nullable source value).eval env scope = value.eval env scope := by
  cases nullable with
  | false => rfl
  | true =>
    have test : (Expr.isNot source null).eval env scope = some (.bool true) := by
      rw [Expr.eval, given]
      cases object <;> first | rfl | exact absurd rfl isSet
    rw [guardIf, if_pos rfl, guarded, Expr.eval, test]
    rfl

/-! ## Reading -/

theorem eval_typeOrNull (clear : Clear scope) {name : String} {b : Builtin}
    (isBuiltin : Builtin.ofName? name = some b) (free : name ∉ locals) (nullable : Bool) :
    (if nullable then Expr.binary .bitOr (.name name) null else .name name).eval env scope =
      some (if nullable then .either (.builtin b) .null else .builtin b) := by
  have isType : (Expr.name name).eval env scope = some (.builtin b) :=
    eval_builtin clear free isBuiltin
  cases nullable with
  | false => exact isType
  | true =>
    rw [if_pos rfl, if_pos rfl, Expr.eval, isType]
    rfl

theorem eval_castBase (clear : Clear scope) {kind : Kind} {target : Option String} {nullable : Bool}
    {source : Expr} {value : Json.Value}
    (free : ∀ name, (FieldType.plain kind target).innermost = some name → name ≠ "" ∧ name ∉ locals)
    (fits : FitsKind env kind target value)
    (given : source.eval env scope = some (.ofJson value)) :
    ∃ object, (castBase kind target nullable source).eval env scope = some object ∧
      DecodedKind env kind value object := by
  cases kind with
  | string | integer | float | boolean =>
    exact ⟨_, eval_taken clear (eval_typeOrNull clear rfl (by decide) nullable) given, rfl⟩
  | dateTime =>
    obtain ⟨s, t, rfl, isMoment, sameText⟩ := fits
    have isStr : (Expr.name "str").eval env scope = some (.builtin .str) :=
      eval_builtin clear (by decide) rfl
    have isDatetime : (Expr.name "datetime").eval env scope = some (.builtin .datetime) :=
      eval_builtin clear (by decide) rfl
    refine ⟨.moment t, ?_, t, rfl, by rw [sameText]⟩
    rw [castBase, eval_guardIf given nofun,
      eval_method isDatetime rfl (evalAll_cons (eval_taken clear isStr given) rfl)]
    show Object.moment <$> env.moment? s = _
    rw [isMoment]
    rfl
  | reference =>
    obtain ⟨name, members, rfl, rfl, isClass, cls, attributes, isRead, isMethod, isWritten⟩ := fits
    obtain ⟨some_, isFree⟩ := free name rfl
    have isReferenced : (FieldType.plain .reference (some name)).referenced? = some name := by
      simp [FieldType.referenced?, FieldType.kind, FieldType.target?, some_]
    have isDict : (Expr.name "dict").eval env scope = some (.builtin .dict) :=
      eval_builtin clear (by decide) rfl
    have isName : (Expr.name name).eval env scope = some (.cls name) := by
      rw [eval_global clear isFree, isClass]
    refine ⟨.model cls attributes, ?_, cls, attributes, rfl, isMethod, isWritten⟩
    have step : castBase .reference (some name) nullable source =
        guardIf nullable source (method (.name name) "from_dict" [taken (.name "dict") source]) := by
      simp only [castBase, isReferenced]
    rw [step, eval_guardIf given nofun,
      eval_method isName rfl (evalAll_cons (eval_taken clear isDict given) rfl)]
    exact isRead
  | array | map | enum | unknown => exact ⟨_, given, rfl⟩

theorem nested_of_ne {kind : Kind} (other : kind ≠ .array) (target : Option String)
    (items : FieldType) :
    cast (.nested kind target items) = cast (.plain kind target) ∧
      dump (.nested kind target items) = dump (.plain kind target) ∧
      (FieldType.nested kind target items).innermost = (FieldType.plain kind target).innermost ∧
      (FieldType.nested kind target items).isConverted = (FieldType.plain kind target).isConverted ∧
      Fits env (.nested kind target items) = Fits env (.plain kind target) ∧
      Decoded env (.nested kind target items) = Decoded env (.plain kind target) := by
  cases kind <;> first | exact absurd rfl other | exact ⟨rfl, rfl, rfl, rfl, rfl, rfl⟩

/-- If each value becomes an object that is related to it, so do all of them. -/
theorem exists_mapM_related {f : Object τ → Option (Object τ)} {related : Json.Value → Object τ → Prop}
    {values : List Json.Value}
    (each : ∀ value ∈ values, ∃ object, f (.ofJson value) = some object ∧ related value object) :
    ∃ objects, (Object.ofItems values).mapM f = some objects ∧
      List.Forall₂ related values objects := by
  induction values with
  | nil => exact ⟨[], rfl, .nil⟩
  | cons value rest ih =>
    obtain ⟨object, isObject, isRelated⟩ := each value (List.mem_cons_self ..)
    obtain ⟨objects, areObjects, areRelated⟩ :=
      ih fun later isLater => each later (List.mem_cons_of_mem _ isLater)
    refine ⟨object :: objects, ?_, .cons isRelated areRelated⟩
    rw [Object.ofItems, List.mapM_cons, isObject, areObjects]
    rfl

/-- What is read of a value that is of the type of a field: items of arrays are read each under the
same name, whatever that stands for outside. -/
theorem eval_cast (type : FieldType) {nullable : Bool} {scope : Scope τ} (clear : Clear scope)
    {source : Expr} {value : Json.Value}
    (free : ∀ name, type.innermost = some name → name ≠ "" ∧ name ∉ locals)
    (fits : Fits env type value) (given : source.eval env scope = some (.ofJson value)) :
    ∃ object, (cast type nullable source).eval env scope = some object ∧
      Decoded env type value object := by
  -- items stand under one more name, which may hide that of an outer item, so the scope varies
  induction type generalizing nullable scope source value with
  | plain kind target => exact eval_castBase clear free fits given
  | nested kind target items ih =>
    by_cases isArray : kind = .array
    · subst isArray
      obtain ⟨values, rfl, each⟩ := fits
      have isList : (Expr.name "list").eval env scope = some (.builtin .list) :=
        eval_builtin clear (by decide) rfl
      have eachDecoded : ∀ value ∈ values, ∃ object,
          (cast items false item).eval env (("e", .ofJson value) :: scope) = some object ∧
            Decoded env items value object :=
        fun value isValue => ih (clear.item _) free (each value isValue) rfl
      obtain ⟨objects, areObjects, areDecoded⟩ := exists_mapM_related
        (f := fun object => (cast items false item).eval env (("e", object) :: scope)) eachDecoded
      refine ⟨.list objects, ?_, values, objects, rfl, rfl, areDecoded⟩
      rw [cast, eval_guardIf given nofun, eval_each (eval_taken clear isList given), areObjects]
      rfl
    · obtain ⟨isCast, _, sameInnermost, _, sameFits, sameDecoded⟩ :=
        @nested_of_ne _ env _ isArray target items
      rw [isCast, sameDecoded]
      rw [sameFits] at fits
      rw [sameInnermost] at free
      exact eval_castBase clear free fits given

/-- What is read of null where a value may be null. -/
theorem eval_cast_null (type : FieldType) (clear : Clear scope) {source : Expr}
    (given : source.eval env scope = some .null) :
    (cast type true source).eval env scope = some .null := by
  have base : ∀ kind target, (castBase kind target true source).eval env scope = some .null := by
    intro kind target
    cases kind with
    | string | integer | float | boolean =>
      exact eval_taken clear (eval_typeOrNull clear rfl (by decide) true) given
    | dateTime => exact eval_guarded_null given
    | array | map | reference | enum | unknown =>
      simp only [castBase]
      split
      · exact eval_guarded_null given
      · exact given
  cases type with
  | plain kind target => exact base kind target
  | nested kind target items =>
    by_cases isArray : kind = .array
    · subst isArray
      exact eval_guarded_null given
    · rw [(@nested_of_ne _ env _ isArray target items).1]
      exact base kind target

/-! ## Giving back -/

/-- What is read of a value that stays as it is is the value. -/
theorem eq_of_decoded {type : FieldType} {value : Json.Value} {object : Object τ}
    (stays : type.isConverted = false) (decoded : Decoded env type value object) :
    object = .ofJson value := by
  -- only points in time and models are read as other objects, and no type that stays has them
  induction type generalizing value object with
  | plain kind target => cases kind <;> first | exact decoded | cases stays
  | nested kind target items ih =>
    by_cases isArray : kind = .array
    · subst isArray
      obtain ⟨values, objects, rfl, rfl, each⟩ := decoded
      rw [Object.ofJson, Object.ofItems_eq]
      congr 1
      induction each with
      | nil => rfl
      | cons first _ later => rw [ih stays first, later, List.map_cons]
    · cases kind <;> first | exact absurd rfl isArray | exact decoded | cases stays

/-- If each object gives a value back, all of them give all values back. -/
theorem mapM_ofJson {f : Object τ → Option (Object τ)} {values : List Json.Value}
    {objects : List (Object τ)}
    (each : List.Forall₂ (fun value object => f object = some (.ofJson value)) values objects) :
    objects.mapM f = some (Object.ofItems values) := by
  induction each with
  | nil => rfl
  | cons first _ later =>
    rw [List.mapM_cons, first, later]
    rfl

theorem eval_dumpBase {kind : Kind} {nullable : Bool} {expr : Expr} {value : Json.Value}
    {object : Object τ} (decoded : DecodedKind env kind value object)
    (given : expr.eval env scope = some object) :
    (dumpBase kind nullable expr).eval env scope = some (.ofJson value) := by
  cases kind with
  | dateTime =>
    obtain ⟨t, rfl, rfl⟩ := decoded
    rw [dumpBase, eval_guardIf given nofun, eval_method given rfl rfl]
    rfl
  | reference =>
    obtain ⟨cls, attributes, rfl, isMethod, isWritten⟩ := decoded
    have bound : (Object.model cls attributes).member "to_dict" =
        some (.bound (.model cls attributes) "to_dict") := by
      rw [Object.member, if_neg (by decide)]
      simp only [isMethod, Option.getD_none]
    rw [dumpBase, eval_guardIf given nofun, eval_method given bound rfl]
    exact isWritten
  | string | integer | float | boolean | array | map | enum | unknown =>
    rw [← (show object = .ofJson value from decoded)]
    exact given

/-- What was read of a value is given back as the value. -/
theorem eval_dump (type : FieldType) {nullable : Bool} {scope : Scope τ} {expr : Expr}
    {value : Json.Value} {object : Object τ} (decoded : Decoded env type value object)
    (given : expr.eval env scope = some object) :
    (dump type nullable expr).eval env scope = some (.ofJson value) := by
  induction type generalizing nullable scope expr value object with
  | plain kind target => exact eval_dumpBase decoded given
  | nested kind target items ih =>
    by_cases isArray : kind = .array
    · subst isArray
      cases converted : items.isConverted with
      | false =>
        -- the array was copied when it was read, and is given back as it is
        rw [dump, if_neg (by simp [converted]), given]
        exact congrArg some (@eq_of_decoded _ env (.nested .array target items) _ _ converted decoded)
      | true =>
        obtain ⟨values, objects, rfl, rfl, each⟩ := decoded
        have eachGiven : List.Forall₂ (fun value object =>
            (dump items false item).eval env (("e", object) :: scope) = some (.ofJson value))
              values objects :=
          each.imp fun _ _ isDecoded => ih isDecoded rfl
        rw [dump, if_pos converted, eval_guardIf given nofun, eval_each given,
          mapM_ofJson (f := fun object => (dump items false item).eval env (("e", object) :: scope))
            eachGiven]
        rfl
    · obtain ⟨_, isDump, _, _, _, sameDecoded⟩ := @nested_of_ne _ env _ isArray target items
      rw [isDump]
      rw [sameDecoded] at decoded
      exact eval_dumpBase decoded given

/-- Null is given back as null where a value may be null. -/
theorem eval_dump_null (type : FieldType) {expr : Expr} (given : expr.eval env scope = some .null) :
    (dump type true expr).eval env scope = some .null := by
  have base : ∀ kind, (dumpBase kind true expr).eval env scope = some .null := by
    intro kind
    cases kind <;> first | exact eval_guarded_null given | exact given
  cases type with
  | plain kind target => exact base kind
  | nested kind target items =>
    by_cases isArray : kind = .array
    · subst isArray
      rw [dump]
      split
      · exact eval_guarded_null given
      · exact given
    · rw [(@nested_of_ne _ env _ isArray target items).2.1]
      exact base kind

end

end SchemaCodegen.Python
