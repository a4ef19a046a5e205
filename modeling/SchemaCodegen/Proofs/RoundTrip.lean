import SchemaCodegen.Document.Node
import SchemaCodegen.Proofs.Conversion
import SchemaCodegen.Proofs.Units
import SchemaCodegen.Proofs.Words

/-!
# Plain classes give back what they read

In the plain style a model is one class, which reads an object field by field and writes it again.
Whatever object conforms to the fields is given back with the fields in order, and with null for
those that it does not have.
-/

namespace SchemaCodegen

/-! ## Types of properties -/

theorem Ending.head?_of_before {ending text : List Char} {c : Char}
    (first : (before ending text).head? = some c) : text.head? = some c := by
  unfold before at first
  split at first
  · cases first
  · rw [List.head?_take] at first
    split at first
    · cases first
    · exact first

namespace Naming

/-- A name with another ending begins as it did, or is nothing but that ending. -/
theorem head?_of_withNewEnding {naming : Naming} {name result : String} {c : Char}
    (replaced : naming.withNewEnding name = .ok result) (first : result.toList.head? = some c) :
    name.toList.head? = some c ∨
      ∃ replacement, naming.replacement.get = .ok replacement ∧
        replacement.toList.head? = some c := by
  obtain ⟨ending, _, step⟩ := Outcome.bind_eq_ok.mp replaced
  split at step
  · obtain ⟨replacement, isReplacement, same⟩ := Outcome.bind_eq_ok.mp step
    cases same
    rw [Ending.replaced, String.toList_ofList, List.head?_append, Option.or_eq_some_iff] at first
    rcases first with front | ⟨_, back⟩
    · exact .inl (Ending.head?_of_before front)
    · exact .inr ⟨replacement, isReplacement, back⟩
  · cases step
    exact .inl first

/-- A class name by default does not begin with a small letter. -/
theorem isLower_head_className {raw name : String} {c : Char}
    (named : className {} raw = .ok name) (first : name.toList.head? = some c) :
    c.isLower = false := by
  rcases head?_of_withNewEnding named first with front | ⟨replacement, isReplacement, front⟩
  · rw [Words.toList_pascalCase] at front
    exact Words.isLower_head_pascal front
  · cases isReplacement
    have letter : 'A' = c := Option.some.inj front
    rw [← letter]
    decide

end Naming

namespace FieldType

theorem innermost_ofKeywords (members : Json.Members) : (ofKeywords members).innermost = none := by
  have simple : ∀ name, (of ((simple? name).getD .unknown)).innermost = none := by
    intro name
    unfold simple?
    split <;> rfl
  unfold ofKeywords
  split
  · split <;> rfl
  · exact simple _
  · rfl

mutual
/-- What a property refers to, at whatever depth of its items, is named as classes are. -/
theorem exists_className_of_ofNode {path : String} {type : FieldType} {name : String} :
    ∀ {node : Json.Value}, ofNode (.typed {}) path node = .ok type → type.innermost = some name →
      ∃ raw, Naming.className {} raw = .ok name
  | .obj members, resolved, refers => by
    rw [ofNode] at resolved
    split at resolved
    · cases ofArray : ofItems (.typed {}) path members with
      | error fault =>
        rw [ofArray] at resolved
        cases resolved
      | ok item =>
        rw [ofArray] at resolved
        cases resolved
        exact exists_className_of_ofItems ofArray refers
    · cases reference : Entries.get? members "$ref" with
      | some value =>
        rw [reference] at resolved
        obtain ⟨conventions, isDefault, step⟩ := Outcome.bind_eq_ok.mp resolved
        cases isDefault
        obtain ⟨target, named, same⟩ := Outcome.bind_eq_ok.mp step
        cases same
        cases refers
        exact ⟨_, named⟩
      | none =>
        rw [reference] at resolved
        cases resolved
        rw [innermost_ofKeywords] at refers
        cases refers
  | .null, resolved, refers | .bool _, resolved, refers | .int _, resolved, refers
  | .float _, resolved, refers | .str _, resolved, refers | .arr _, resolved, refers => by
    rw [ofNode.eq_def] at resolved
    cases resolved
    cases refers
theorem exists_className_of_ofItems {path : String} {type : FieldType} {name : String} :
    ∀ {members : List (String × Json.Value)}, ofItems (.typed {}) path members = .ok type →
      type.innermost = some name → ∃ raw, Naming.className {} raw = .ok name
  | [], resolved, _ => by
    rw [ofItems] at resolved
    cases resolved
  | (key, value) :: rest, resolved, refers => by
    rw [ofItems.eq_def] at resolved
    simp only at resolved
    split at resolved
    · split at resolved
      · cases resolved
      · exact exists_className_of_ofNode resolved refers
    · exact exists_className_of_ofItems resolved refers
end

/-- Whether properties have a type by the conventions by default, and its references have names. -/
def Resolved (type : FieldType) : Prop :=
  (∃ path node, ofNode (.typed {}) path node = .ok type) ∧ type.innermost ≠ some ""

/-- What such a type refers to is none of the names that functions of a class give. -/
theorem Resolved.free {type : FieldType} (resolved : type.Resolved) {name : String}
    (refers : type.innermost = some name) : name ≠ "" ∧ name ∉ Python.locals := by
  obtain ⟨⟨path, node, isNode⟩, isNamed⟩ := resolved
  obtain ⟨raw, named⟩ := exists_className_of_ofNode isNode refers
  have capital : ∀ c, name.toList.head? = some c → c.isLower = false :=
    fun _ first => Naming.isLower_head_className named first
  constructor
  · rintro rfl
    exact isNamed refers
  · intro isLocal
    have small : ∀ other ∈ Python.locals, ∃ c, other.toList.head? = some c ∧ c.isLower = true := by
      simp [Python.locals]
    obtain ⟨c, first, isSmall⟩ := small name isLocal
    rw [capital c first] at isSmall
    cases isSmall

end FieldType

/-! ## Entries that are made item by item -/

namespace Entries

variable {α β : Type} {list : List α} {key : α → String}

/-- Of entries with different keys each is found at its key. -/
theorem get?_map_of_nodup (different : (list.map key).Nodup) (value : α → β) {a : α}
    (isItem : a ∈ list) :
    get? (list.map fun b => (key b, value b)) (key a) = some (value a) := by
  induction list with
  | nil => cases isItem
  | cons first rest ih =>
    obtain ⟨fresh, later⟩ := List.nodup_cons.mp different
    rw [List.map_cons, get?_cons]
    rcases List.mem_cons.mp isItem with rfl | isLater
    · rw [if_pos rfl]
    · have other : key first ≠ key a := by
        intro same
        exact fresh (same ▸ List.mem_map_of_mem isLater)
      rw [if_neg other]
      exact ih later isLater

theorem get?_map_eq_none (value : α → β) {name : String} (free : ∀ a ∈ list, key a ≠ name) :
    get? (list.map fun a => (key a, value a)) name = none := by
  induction list with
  | nil => rfl
  | cons first rest ih =>
    rw [List.map_cons, get?_cons, if_neg (free first (List.mem_cons_self ..))]
    exact ih fun a isLater => free a (List.mem_cons_of_mem _ isLater)

theorem keys_map (value : α → β) :
    keys (list.map fun a => (key a, value a)) = list.map key := by
  rw [keys, List.map_map]
  rfl

end Entries

namespace Python

variable {τ : Type}

/-! ## Dictionaries and objects of the fields -/

section

variable {α : Type} {list : List α} {key : α → String}
variable {env : Environment τ} {scope : Scope τ} {expr : α → Expr} {object : α → Object τ}

theorem evalNamed_map (each : ∀ a ∈ list, (expr a).eval env scope = some (object a)) :
    Expr.evalNamed env scope (list.map fun a => (key a, expr a)) =
      some (list.map fun a => (key a, object a)) := by
  induction list with
  | nil => rfl
  | cons first rest ih =>
    have later := ih fun a isLater => each a (List.mem_cons_of_mem _ isLater)
    rw [List.map_cons, Expr.evalNamed, each first (List.mem_cons_self ..), later]
    rfl

theorem put_of_fresh {name : String} (value : Object τ) (fresh : ∀ a ∈ list, key a ≠ name) :
    Object.put (list.map fun a => (.str (key a), object a)) (.str name) value =
      list.map (fun a => (Object.str (key a), object a)) ++ [(.str name, value)] := by
  induction list with
  | nil => rfl
  | cons first rest ih =>
    have other : (Object.str (key first) : Object τ).isSameKey (.str name) = false :=
      decide_eq_false (fresh first (List.mem_cons_self ..))
    rw [List.map_cons, Object.put, other, ih fun a isLater => fresh a (List.mem_cons_of_mem _ isLater)]
    rfl

theorem evalEntries_map_append (before : List α) (different : ((before ++ list).map key).Nodup)
    (each : ∀ a ∈ list, (expr a).eval env scope = some (object a)) :
    Expr.evalEntries env scope (before.map fun a => (.str (key a), object a))
        (list.map fun a => (quoted (key a), expr a)) =
      some ((before ++ list).map fun a => (.str (key a), object a)) := by
  -- each step moves one entry behind those before it, so these vary
  induction list generalizing before with
  | nil => rw [List.append_nil, List.map_nil, Expr.evalEntries]
  | cons first rest ih =>
    have fresh : ∀ a ∈ before, key a ≠ key first := by
      intro a isBefore same
      rw [List.map_append, List.nodup_append] at different
      exact different.2.2 _ (List.mem_map_of_mem isBefore) _ (List.mem_cons_self ..) same
    have isKey : (quoted (key first)).eval env scope = some (.str (key first)) := rfl
    have shifted : before ++ first :: rest = (before ++ [first]) ++ rest := by simp
    rw [shifted] at different ⊢
    rw [List.map_cons, Expr.evalEntries, isKey, each first (List.mem_cons_self ..)]
    show Expr.evalEntries env scope (Object.put _ _ _) _ = _
    rw [put_of_fresh _ fresh,
      ← ih (before ++ [first]) different fun a isLater => each a (List.mem_cons_of_mem _ isLater)]
    simp

/-- A dictionary with different texts as keys has its entries in the order in which they stand. -/
theorem evalEntries_map (different : (list.map key).Nodup)
    (each : ∀ a ∈ list, (expr a).eval env scope = some (object a)) :
    Expr.evalEntries env scope [] (list.map fun a => (quoted (key a), expr a)) =
      some (list.map fun a => (.str (key a), object a)) :=
  evalEntries_map_append [] different each

variable {default : α → Option Expr}

theorem attributes_map {given : Entries (Object τ)}
    (each : ∀ a ∈ list, given.get? (key a) = some (object a)) :
    ClassDef.attributes given (list.map fun a => (key a, default a)) =
      some (list.map fun a => (key a, object a)) := by
  unfold ClassDef.attributes
  induction list with
  | nil => rfl
  | cons first rest ih =>
    have later := ih fun a isLater => each a (List.mem_cons_of_mem _ isLater)
    rw [List.map_cons, List.mapM_cons, later]
    simp only [each first (List.mem_cons_self ..)]
    rfl

/-- An object is made from what is given for all of its fields. -/
theorem construct_map {cls : ClassDef} (isDataClass : cls.isDataClass = true)
    (areFields : cls.fields = list.map fun a => (key a, default a))
    (different : (list.map key).Nodup) (free : ∀ a ∈ list, isPrivate (key a) = false) :
    cls.construct (list.map fun a => (key a, object a)) =
      some (.model cls.name (list.map fun a => (key a, object a))) := by
  have noPrivate : (list.map key).any isPrivate = false := by
    rw [List.any_eq_false]
    intro name isName
    obtain ⟨a, isItem, rfl⟩ := List.mem_map.mp isName
    rw [free a isItem]
    exact Bool.false_ne_true
  have known : (list.map key).all cls.fields.has = true := by
    rw [List.all_eq_true]
    intro name isName
    obtain ⟨a, isItem, rfl⟩ := List.mem_map.mp isName
    rw [areFields, Entries.has, Entries.get?_map_of_nodup different _ isItem]
    rfl
  have made : ClassDef.attributes (list.map fun a => (key a, object a))
      (list.map fun a => (key a, default a)) = some (list.map fun a => (key a, object a)) :=
    attributes_map fun a isItem => Entries.get?_map_of_nodup different object isItem
  -- the class accepts what is given: its keys are those of the fields
  rw [ClassDef.construct, if_pos, areFields, made]
  · rfl
  · rw [Entries.keys_map, known, areFields, Entries.keys_map, isDataClass, noPrivate]
    simp [different]

end

/-! ## Fields -/

/-- Whether the object with some members has for a field what the field asks for: a value of its
type, or null or nothing at all if it is nullable. -/
def Conforms (env : Environment τ) (field : Field) (members : Json.Members) : Prop :=
  match Entries.get? members field.name with
  | none => field.nullable = true
  | some value => (field.nullable = true ∧ value = .null) ∨ Fits env field.type value

/-- What the object with some members has for a field, or null. -/
def valueOf (members : Json.Members) (field : Field) : Json.Value :=
  (Entries.get? members field.name).getD .null

section

variable {env : Environment τ} {scope : Scope τ} {field : Field} {members : Json.Members}

/-- The value of a field is of its type, or it is null and may be. -/
theorem Conforms.fits (conforms : Conforms env field members) :
    (field.nullable = true ∧ valueOf members field = .null) ∨
      Fits env field.type (valueOf members field) := by
  unfold Conforms at conforms
  unfold valueOf
  cases found : Entries.get? members field.name with
  | none =>
    rw [found] at conforms
    exact .inl ⟨conforms, rfl⟩
  | some value =>
    rw [found] at conforms
    exact conforms

/-- The value of a field is read from the object. -/
theorem eval_sourceOf (conforms : Conforms env field members)
    (isData : scope.get? "data" = some (.ofJson (.obj members))) :
    (sourceOf field).eval env scope = some (.ofJson (valueOf members field)) := by
  have given : data.eval env scope = some (.dict (Object.ofMembers members)) := by
    rw [data, Expr.eval, isData]
    rfl
  have isKey : (quoted field.name).eval env scope = some (.str field.name) := rfl
  unfold sourceOf
  split
  · rw [eval_method given rfl (evalAll_cons isKey rfl)]
    show some ((Object.lookUp _ _).getD .null) = _
    rw [Object.lookUp_ofMembers, valueOf]
    cases Entries.get? members field.name <;> rfl
  next notNullable =>
    obtain ⟨value, found⟩ : ∃ value, Entries.get? members field.name = some value := by
      unfold Conforms at conforms
      cases found : Entries.get? members field.name with
      | none =>
        rw [found] at conforms
        exact absurd conforms notNullable
      | some value => exact ⟨value, rfl⟩
    rw [Expr.eval, given, isKey]
    show Object.lookUp _ _ = _
    rw [Object.lookUp_ofMembers, valueOf, found]
    rfl

/-- A field is read as an object that is written as the value of the field, wherever that is. -/
theorem exists_object (conforms : Conforms env field members) (resolved : field.type.Resolved)
    (clear : Clear scope) (isData : scope.get? "data" = some (.ofJson (.obj members))) :
    ∃ object, (cast field.type field.nullable (sourceOf field)).eval env scope = some object ∧
      ∀ (scope : Scope τ) (expr : Expr), expr.eval env scope = some object →
        (dump field.type field.nullable expr).eval env scope =
          some (.ofJson (valueOf members field)) := by
  have source := eval_sourceOf conforms isData
  -- null passes both ways by the guards, any other value by its type
  rcases conforms.fits with ⟨nullable, isNull⟩ | fits
  · rw [isNull] at source ⊢
    rw [nullable]
    exact ⟨.null, eval_cast_null field.type clear source,
      fun _ _ given => eval_dump_null field.type given⟩
  · obtain ⟨object, isRead, decoded⟩ :=
      eval_cast field.type clear (fun _ refers => resolved.free refers) fits source
    exact ⟨object, isRead, fun _ _ given => eval_dump field.type decoded given⟩

end

/-! ## Classes -/

/-- What a field of a plain class is by default. -/
def defaultOf (field : Field) : Option Expr := if field.nullable then some null else none

/-- A field in the plain style has no more than its name, its type and its default. -/
theorem fieldPart_eq_ok {config : Config} (plain : config.unions.isOn = false) {field : Field}
    {part : Part} (formed : fieldPart config field = .ok part) :
    ∃ type, part = .field (attributeName field.name) type (defaultOf field) := by
  obtain ⟨type, _, same⟩ := Outcome.bind_eq_ok.mp formed
  cases same
  refine ⟨type, ?_⟩
  have bare : metadata config field = [] := by
    rw [metadata, usesLibrary, plain]
    rfl
  rw [fieldOf, bare]
  rfl

section

variable {config : Config} {model : Model} {parts : List Part}

theorem filterMap_documented (description : Option String) :
    (documented description).filterMap Part.field? = [] := by
  unfold documented
  split
  · rfl
  · split <;> rfl

theorem filterMap_fieldParts (plain : config.unions.isOn = false) {fields : List Field}
    (formed : fields.mapM (fun field => fieldPart config field) = .ok parts) :
    parts.filterMap Part.field? =
      fields.map fun field => (attributeName field.name, defaultOf field) := by
  have each := Outcome.mapM_eq_ok.mp formed
  clear formed
  induction each with
  | nil => rfl
  | cons first _ ih =>
    obtain ⟨type, rfl⟩ := fieldPart_eq_ok plain first
    rw [List.filterMap_cons, ih]
    rfl

/-- The fields of a plain class are those of the model. -/
theorem fields_plainClassOf (plain : config.unions.isOn = false)
    (formed : model.flattened.mapM (fun field => fieldPart config field) = .ok parts) :
    (plainClassOf config model parts).fields =
      model.flattened.map fun field => (attributeName field.name, defaultOf field) := by
  have functions : (if config.serialization.isOn then
      [readFields model model.flattened, writeFields model.flattened] else []).filterMap Part.field? =
        [] := by
    split <;> rfl
  rw [ClassDef.fields, plainClassOf, List.filterMap_append, List.filterMap_append, functions,
    filterMap_documented, filterMap_fieldParts plain formed, List.nil_append, List.append_nil]

/-- A name that no attribute has is hidden by no field. -/
theorem has_fields_eq_false (plain : config.unions.isOn = false)
    (formed : model.flattened.mapM (fun field => fieldPart config field) = .ok parts) {name : String}
    (unused : ∀ f ∈ model.flattened, attributeName f.name ≠ name) :
    (plainClassOf config model parts).fields.has name = false := by
  rw [fields_plainClassOf plain formed, Entries.has, Entries.get?_map_eq_none _ unused]
  rfl

theorem reverse_parts (serialization : config.serialization.isOn = true) :
    (plainClassOf config model parts).parts.reverse =
      writeFields model.flattened :: readFields model model.flattened ::
        (documented model.description ++ parts).reverse := by
  rw [plainClassOf, if_pos serialization, List.reverse_append]
  rfl

/-- A plain class reads an object by the values of its fields. -/
theorem read_plainClassOf (serialization : config.serialization.isOn = true)
    (visible : (plainClassOf config model parts).fields.has "from_dict" = false)
    (env : Environment τ) (value : Object τ) :
    (plainClassOf config model parts).read env value =
      (Expr.call (.name "cls") [] (model.flattened.map fun f =>
        (attributeName f.name, cast f.type f.nullable (sourceOf f)))).eval env
          [("cls", .own (plainClassOf config model parts)), ("data", value)] := by
  rw [ClassDef.read, ClassDef.function?, visible, reverse_parts serialization]
  rfl

/-- A plain class writes an object by the attributes of its fields. -/
theorem write_plainClassOf (serialization : config.serialization.isOn = true)
    (visible : (plainClassOf config model parts).fields.has "to_dict" = false)
    (env : Environment τ) (attributes : List (String × Object τ)) :
    (plainClassOf config model parts).write env (.model model.name attributes) =
      (Expr.dict (model.flattened.map fun f =>
        (quoted f.name,
          dump f.type f.nullable (.attribute (.name "self") (attributeName f.name))))).eval env
          [("self", .model model.name attributes)] := by
  rw [ClassDef.write, ClassDef.function?, visible, reverse_parts serialization]
  have own : (decide (model.name = (plainClassOf config model parts).name) && true) = true := by
    rw [plainClassOf, decide_eq_true rfl]
    rfl
  exact if_pos own

/-- Fields that a plain class tells apart: their names differ, and so do their attributes, which
neither are private nor hide the functions of the class. Their types are those of properties. -/
structure Separated (fields : List Field) : Prop where
  names : (fields.map (·.name)).Nodup
  attributes : (fields.map fun f => attributeName f.name).Nodup
  notWriter : ∀ f ∈ fields, attributeName f.name ≠ "to_dict"
  notReader : ∀ f ∈ fields, attributeName f.name ≠ "from_dict"
  notPrivate : ∀ f ∈ fields, isPrivate (attributeName f.name) = false
  types : ∀ f ∈ fields, f.type.Resolved

/-- Each field is read as an object that is written as the value of the field. -/
theorem exists_objects {env : Environment τ} {scope : Scope τ} {fields : List Field}
    {members : Json.Members} (conforms : ∀ f ∈ fields, Conforms env f members)
    (types : ∀ f ∈ fields, f.type.Resolved) (clear : Clear scope)
    (isData : scope.get? "data" = some (.ofJson (.obj members))) :
    ∃ objectOf : Field → Object τ, ∀ f ∈ fields,
      (cast f.type f.nullable (sourceOf f)).eval env scope = some (objectOf f) ∧
        ∀ (scope : Scope τ) (expr : Expr), expr.eval env scope = some (objectOf f) →
          (dump f.type f.nullable expr).eval env scope = some (.ofJson (valueOf members f)) := by
  have each : ∀ f, ∃ object : Object τ, f ∈ fields →
      (cast f.type f.nullable (sourceOf f)).eval env scope = some object ∧
        ∀ (scope : Scope τ) (expr : Expr), expr.eval env scope = some object →
          (dump f.type f.nullable expr).eval env scope = some (.ofJson (valueOf members f)) := by
    intro f
    by_cases isField : f ∈ fields
    · obtain ⟨object, both⟩ := exists_object (conforms f isField) (types f isField) clear isData
      exact ⟨object, fun _ => both⟩
    · -- nothing is asked of what is no field
      exact ⟨.null, fun isField' => absurd isField' isField⟩
  choose objectOf both using each
  exact ⟨objectOf, both⟩

theorem clear_reading (cls : ClassDef) (value : Object τ) :
    Clear [("cls", .own cls), ("data", value)] := by
  intro name isName
  simp only [Entries.keys, List.map_cons, List.map_nil, List.mem_cons, List.not_mem_nil,
    or_false] at isName
  rcases isName with rfl | rfl
  · decide
  · decide

theorem eval_attributeName {fields : List Field} (separated : Separated fields)
    (env : Environment τ) (cls : String) (objectOf : Field → Object τ) {f : Field}
    (isField : f ∈ fields) :
    (Expr.attribute (.name "self") (attributeName f.name)).eval env
        [("self", .model cls (fields.map fun f => (attributeName f.name, objectOf f)))] =
      some (objectOf f) := by
  have found := Entries.get?_map_of_nodup separated.attributes objectOf isField
  refine eval_attribute rfl ?_
  rw [Object.member, if_neg (by simp [separated.notPrivate f isField])]
  simp only [found, Option.getD_some]

/-- The class of a model in the plain style gives back what it reads. -/
theorem plainClassOf_gives_back (plain : config.unions.isOn = false)
    (serialization : config.serialization.isOn = true)
    (formed : model.flattened.mapM (fun field => fieldPart config field) = .ok parts)
    (separated : Separated model.flattened) {env : Environment τ} {members : Json.Members}
    (conforms : ∀ f ∈ model.flattened, Conforms env f members) :
    ∃ attributes : List (String × Object τ), Entries.get? attributes "to_dict" = none ∧
      (plainClassOf config model parts).read env (.ofJson (.obj members)) =
        some (.model model.name attributes) ∧
      (plainClassOf config model parts).write env (.model model.name attributes) =
        some (.ofJson (.obj (model.flattened.map fun f => (f.name, valueOf members f)))) := by
  have areFields := fields_plainClassOf plain formed
  obtain ⟨objectOf, each⟩ :=
    exists_objects conforms separated.types (clear_reading (plainClassOf config model parts) _) rfl
  refine ⟨model.flattened.map fun f => (attributeName f.name, objectOf f), ?_, ?_, ?_⟩
  · exact Entries.get?_map_eq_none objectOf separated.notWriter
  · have visible := has_fields_eq_false plain formed separated.notReader
    have given := @evalNamed_map _ _ _ (fun f : Field => attributeName f.name) env _ _ _
      fun f isField => (each f isField).1
    rw [read_plainClassOf serialization visible, eval_call rfl rfl given]
    exact construct_map rfl areFields separated.attributes separated.notPrivate
  · have visible := has_fields_eq_false plain formed separated.notWriter
    have written := evalEntries_map separated.names fun f isField =>
      (each f isField).2 _ _ (eval_attributeName separated env model.name objectOf isField)
    rw [write_plainClassOf serialization visible, Expr.eval, written, Object.ofJson,
      Object.ofMembers_eq, List.map_map]
    rfl

end

/-! ## Units -/

/-- In the plain style each model of a unit has one class. -/
theorem classesOf_eq_ok {config : Config} {model : Model} {own : List ClassDef}
    (plain : config.unions.isOn = false) (formed : classesOf config model = .ok own) :
    ∃ parts, model.flattened.mapM (fun field => fieldPart config field) = .ok parts ∧
      own = [plainClassOf config model parts] := by
  have alone : classesOf config model = do return [← plainClass config model] := by
    rw [classesOf, plain]
    rfl
  rw [alone] at formed
  obtain ⟨cls, ofClass, same⟩ := Outcome.bind_eq_ok.mp formed
  obtain ⟨parts, ofFields, same'⟩ := Outcome.bind_eq_ok.mp ofClass
  cases same
  cases same'
  exact ⟨parts, ofFields, rfl⟩

section

variable {config : Config} {models : List Model} {fileStem : String} {atHand : List String}
  {draft : Draft} {model : Model}

/-- The classes of a unit, model by model. -/
theorem exists_module (language : config.language = .python)
    (drafted : (Backend.draft { config } models fileStem atHand).1 = .ok draft) :
    ∃ module lists, draft = .python module ∧ models.mapM (classesOf config) = .ok lists ∧
      module.classes = lists.flatten := by
  rw [Backend.draft_fst, Draft.ofModels] at drafted
  simp only [language] at drafted
  obtain ⟨module, ofModels, rfl⟩ := Outcome.map_eq_ok.mp drafted
  obtain ⟨lists, ofClasses, _, _, rfl⟩ := Module.ofModels_eq_ok.mp ofModels
  exact ⟨_, lists, rfl, ofClasses, rfl⟩

end

section

variable {config : Config} {models : List Model} {fileStem : String} {atHand : List String}
  {model : Model}

/-- The class of a model is found at its name, if no other model has it. -/
theorem find?_class (plain : config.unions.isOn = false) {lists : List (List ClassDef)}
    (each : List.Forall₂ (fun model list => classesOf config model = .ok list) models lists)
    (different : (models.map (·.name)).Nodup) (isModel : model ∈ models) {cls : ClassDef}
    (formed : classesOf config model = .ok [cls]) :
    lists.flatten.find? (·.name = model.name) = some cls := by
  induction each with
  | nil => cases isModel
  | @cons other _ _ _ first _ ih =>
    obtain ⟨fresh, later⟩ := List.nodup_cons.mp different
    obtain ⟨parts, _, rfl⟩ := classesOf_eq_ok plain first
    rw [List.flatten_cons, List.singleton_append]
    rcases List.mem_cons.mp isModel with rfl | isLater
    · rw [formed] at first
      cases first
      exact List.find?_cons_of_pos (decide_eq_true rfl)
    · rw [List.find?_cons_of_neg]
      · exact ih later isLater
      · intro same
        have sameName : other.name = model.name := of_decide_eq_true same
        exact fresh (List.mem_map.mpr ⟨model, isLater, sameName.symm⟩)

/-- What is taken for granted of references the classes of a unit have themselves: an object with
the fields of a model and no others, in order, is read back by the class of the model if the objects
that it refers to are. -/
theorem readsBack_linked (language : config.language = .python)
    (plain : config.unions.isOn = false) (serialization : config.serialization.isOn = true)
    {module : Module}
    (drafted : (Backend.draft { config } models fileStem atHand).1 = .ok (.python module))
    (different : (models.map (·.name)).Nodup) (isModel : model ∈ models)
    (separated : Separated model.flattened) (named : Builtin.ofName? model.name = none)
    (env : Environment τ) {depth : Nat} {members : Json.Members}
    (conforms : ∀ f ∈ model.flattened, Conforms (env.linked module.classes depth) f members)
    (noOthers : members = model.flattened.map fun f => (f.name, valueOf members f)) :
    (env.linked module.classes (depth + 1)).ReadsBack model.name (.ofJson (.obj members)) := by
  obtain ⟨_, lists, same, ofClasses, classes⟩ := exists_module language drafted
  cases same
  obtain ⟨own, isOwn, formed⟩ := Outcome.exists_mem_of_mapM ofClasses isModel
  obtain ⟨parts, ofFields, rfl⟩ := classesOf_eq_ok plain formed
  have found := find?_class plain (Outcome.mapM_eq_ok.mp ofClasses) different isModel formed
  rw [← classes] at found
  obtain ⟨attributes, visible, isRead, isWritten⟩ :=
    plainClassOf_gives_back plain serialization ofFields separated conforms
  rw [← noOthers] at isWritten
  refine ⟨?_, model.name, attributes, ?_, visible, ?_⟩
  · have isClass : module.classes.any (·.name = model.name) = true := by
      rw [List.any_eq_true]
      exact ⟨_, List.mem_of_find?_eq_some found, decide_eq_true rfl⟩
    rw [Environment.global, named]
    exact if_pos isClass
  · show (do (← module.classes.find? _).read _ _) = _
    rw [found]
    exact isRead
  · show (do (← module.classes.find? _).write _ _) = _
    rw [found]
    exact isWritten

end

end Python

end SchemaCodegen
