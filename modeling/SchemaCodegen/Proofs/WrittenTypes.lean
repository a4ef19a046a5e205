import SchemaCodegen.Proofs.Outcome
import SchemaCodegen.Backend

/-!
# The types that units write

Which fields a unit writes depends on its language and style. Each field is written with its type:
the type of the innermost items, in brackets for each array around them.
-/

namespace SchemaCodegen

/-! ## Innermost types -/

namespace FieldType

/-- How many arrays with types of items are around the innermost type. -/
def depth : FieldType → Nat
  | .plain _ _ => 0
  | .nested .array _ item => depth item + 1
  | .nested _ _ _ => 0

/-- The kind of the innermost type. -/
def coreKind : FieldType → Kind
  | .plain kind _ => kind
  | .nested .array _ item => coreKind item
  | .nested kind _ _ => kind

/-- The name that stands with the innermost type. -/
def coreTarget : FieldType → Option String
  | .plain _ target => target
  | .nested .array _ item => coreTarget item
  | .nested _ target _ => target

/-- The reference that is the innermost type, unless it is empty. -/
def coreReference? (type : FieldType) : Option String :=
  referenced? (.plain type.coreKind type.coreTarget)

theorem referenced_eq_some {kind : Kind} {target : Option String} {name : String}
    (named : referenced? (.plain kind target) = some name) :
    kind = .reference ∧ target = some name ∧ name ≠ "" := by
  unfold referenced? at named
  split at named
  next isReference =>
    obtain ⟨held, set⟩ := Option.filter_eq_some_iff.mp named
    exact ⟨isReference, held, of_decide_eq_true set⟩
  next => cases named

/-- A statement about types holds if it does of those that are no arrays and of arrays of types of
which it holds. -/
theorem rec_core {motive : FieldType → Prop} (plain : ∀ kind target, motive (.plain kind target))
    (nested : ∀ kind target item, kind ≠ .array → motive (.nested kind target item))
    (array : ∀ target item, motive item → motive (.nested .array target item)) (type : FieldType) :
    motive type := by
  induction type with
  | plain kind target => exact plain kind target
  | nested kind target item ih =>
    by_cases isArray : kind = .array
    · subst isArray
      exact array target item ih
    · exact nested kind target item isArray

theorem references_eq_core (type : FieldType) : type.references = type.coreReference?.toList := by
  induction type using rec_core with
  | plain kind target => rfl
  | nested kind target item noArray => cases kind <;> first | rfl | exact absurd rfl noArray
  | array target item ih => exact ih

end FieldType

/-- A text in brackets of lists, `depth` times. -/
def listsOf (opening closing : String) : Nat → String → String
  | 0, text => text
  | depth + 1, text => opening ++ listsOf opening closing depth text ++ closing

theorem Dart.typeText_eq (type : FieldType) :
    Dart.typeText type =
      listsOf "List<" ">" type.depth (Dart.baseType type.coreKind type.coreTarget) := by
  induction type using FieldType.rec_core with
  | plain kind target => rfl
  | nested kind target item noArray => cases kind <;> first | rfl | exact absurd rfl noArray
  | array target item ih =>
    rw [FieldType.depth, FieldType.coreKind, FieldType.coreTarget, listsOf, ← ih]
    rfl

theorem Python.typeText_eq (type : FieldType) :
    Python.typeText type =
      listsOf "list[" "]" type.depth (Python.baseType type.coreKind type.coreTarget) := by
  induction type using FieldType.rec_core with
  | plain kind target => rfl
  | nested kind target item noArray => cases kind <;> first | rfl | exact absurd rfl noArray
  | array target item ih =>
    rw [FieldType.depth, FieldType.coreKind, FieldType.coreTarget, listsOf, ← ih]
    rfl

/-! ## Fields of a model -/

namespace Model

theorem mem_addShared {model : Model} {fields added : List Field} {field : Field}
    (isField : field ∈ model.addShared fields added) :
    field ∈ fields ∨ ∃ other ∈ added, other.name = field.name ∧ other.type = field.type := by
  -- a field whose name is taken already is left out, any other is put behind
  induction added generalizing fields with
  | nil => exact .inl isField
  | cons first rest ih =>
    rw [addShared] at isField
    split at isField
    next =>
      rcases ih isField with isEarlier | ⟨other, isLater, same⟩
      · exact .inl isEarlier
      · exact .inr ⟨other, List.mem_cons_of_mem _ isLater, same⟩
    next =>
      rcases ih isField with isEarlier | ⟨other, isLater, same⟩
      · rcases List.mem_append.mp isEarlier with isOld | isNew
        · exact .inl isOld
        · refine .inr ⟨first, List.mem_cons_self .., ?_⟩
          rw [List.mem_singleton.mp isNew, shared]
          split <;> exact ⟨rfl, rfl⟩
      · exact .inr ⟨other, List.mem_cons_of_mem _ isLater, same⟩

/-- The fields of a union as one record have the types of fields of the union. -/
theorem exists_of_flattened {model : Model} {field : Field} (isField : field ∈ model.flattened) :
    ∃ other ∈ model.allFields, other.name = field.name ∧ other.type = field.type := by
  rcases mem_addShared isField with isOwn | ⟨other, isOfArm, same⟩
  · exact ⟨field, List.mem_append_left _ isOwn, rfl, rfl⟩
  · exact ⟨other, List.mem_append_right _ isOfArm, same⟩

end Model

/-! ## Dart -/

namespace Dart

/-- The fields that are parameters of an arm: the shared ones that it does not declare itself, and
its own. -/
def armFields (model : Model) (variant : Variant) : List Field :=
  model.fields.filter (!variant.has ·.name) ++ variant.fields

/-- The fields that the class of a model writes. -/
def writtenFields (config : Config) (model : Model) : List Field :=
  if !config.unions.isOn then model.flattened
  else if model.isUnion then model.arms.flatMap (armFields model)
  else model.fields

/-- The types of the members of a class and of the parameters of its constructors. -/
def Class.types (cls : Class) : List String :=
  cls.members.map (·.type) ++ cls.constructors.flatMap fun made => made.parameters.filterMap (·.type)

/-- Whether a text is the type of a field, perhaps with the mark of null. -/
def Writes (field : Field) (text : String) : Prop :=
  text = typeText field.type ∨ text = nullableType field.type field.nullable

theorem types_of_parameters (config : Config) (fields : List Field) :
    List.Forall₂ Writes fields ((fields.map (parameter config)).filterMap (·.type)) := by
  induction fields with
  | nil => exact .nil
  | cons field rest ih => exact .cons (.inr rfl) ih

theorem types_of_arm (config : Config) (model : Model) (key : String) (variant : Variant) :
    List.Forall₂ Writes (armFields model variant)
      ((armParameters config model key variant).filterMap (·.type)) := by
  rw [armFields, armParameters, List.filterMap_append]
  refine List.rel_append (types_of_parameters config _) ?_
  induction variant.fields with
  | nil => exact .nil
  | cons field rest ih =>
    rw [List.map_cons]
    split
    · exact .cons (.inl rfl) ih
    · exact .cons (.inr rfl) ih

theorem types_of_plainClass (config : Config) (model : Model) :
    List.Forall₂ Writes model.flattened (plainClass config model).types := by
  have types : (plainClass config model).types =
      model.flattened.map fun field => nullableType field.type field.nullable := by
    simp [Class.types, plainClass]
  rw [types, List.forall₂_map_right_iff]
  exact List.forall₂_same.mpr fun field _ => .inr rfl

theorem types_of_dataClass (config : Config) (model : Model) :
    List.Forall₂ Writes model.fields (dataClass config model).types := by
  simp only [Class.types, dataClass, List.map_nil, List.nil_append, List.flatMap_singleton]
  exact types_of_parameters config model.fields

theorem types_of_unionClass {config : Config} {model : Model} {cls : Class}
    (formed : unionClass config model = .ok cls) :
    List.Forall₂ Writes (model.arms.flatMap (armFields model)) cls.types := by
  obtain ⟨key, _, same⟩ := Outcome.bind_eq_ok.mp formed
  cases same
  simp only [Class.types, List.map_nil, List.nil_append, List.flatMap_cons, List.filterMap_nil]
  induction model.arms with
  | nil => exact .nil
  | cons variant rest ih => exact List.rel_append (types_of_arm config model key variant) ih

/-- The class of a model writes the types of its fields in order. -/
theorem types_of_classOf {config : Config} {model : Model} {cls : Class}
    (formed : classOf config model = .ok cls) :
    cls.name = model.name ∧ List.Forall₂ Writes (writtenFields config model) cls.types := by
  unfold classOf at formed
  unfold writtenFields
  split at formed
  next plain =>
    cases formed
    rw [if_pos plain]
    exact ⟨rfl, types_of_plainClass config model⟩
  next unions =>
    rw [if_neg unions]
    split at formed
    next isUnion =>
      rw [if_pos isUnion]
      refine ⟨?_, types_of_unionClass formed⟩
      obtain ⟨key, _, same⟩ := Outcome.bind_eq_ok.mp formed
      cases same
      rfl
    next noUnion =>
      cases formed
      rw [if_neg noUnion]
      exact ⟨rfl, types_of_dataClass config model⟩

theorem exists_of_writtenFields {config : Config} {model : Model} {field : Field}
    (isField : field ∈ writtenFields config model) :
    ∃ other ∈ model.allFields, other.name = field.name ∧ other.type = field.type := by
  unfold writtenFields at isField
  split at isField
  next => exact Model.exists_of_flattened isField
  next =>
    split at isField
    next =>
      obtain ⟨variant, isArm, isParameter⟩ := List.mem_flatMap.mp isField
      rcases List.mem_append.mp isParameter with isShared | isOwn
      · exact ⟨field, List.mem_append_left _ (List.mem_filter.mp isShared).1, rfl, rfl⟩
      · exact ⟨field, List.mem_append_right _ (List.mem_flatMap.mpr ⟨variant, isArm, isOwn⟩), rfl, rfl⟩
    next => exact ⟨field, List.mem_append_left _ isField, rfl, rfl⟩

end Dart

/-! ## Python -/

namespace Python

/-- The fields that the classes of a model write: a union writes the shared ones in its base. -/
def writtenFields (config : Config) (model : Model) : List Field :=
  if !config.unions.isOn then model.flattened
  else if model.isUnion then model.allFields
  else model.fields

/-- The annotation of a field. -/
def Part.type? : Part → Option Expr
  | .field _ type _ => some type
  | _ => none

/-- The annotations of the fields of a class. -/
def ClassDef.annotations (cls : ClassDef) : List Expr := cls.parts.filterMap Part.type?

/-- Whether an expression is what the type of a field reads as. -/
def Writes (field : Field) (type : Expr) : Prop :=
  Expr.read (nullableType field.type field.nullable) = .ok type

theorem annotations_of_fields {config : Config} {default : Field → Option Expr} {fields : List Field}
    {parts : List Part}
    (formed : (fields.mapM fun field => fieldPart config field (default field)) = .ok parts) :
    List.Forall₂ Writes fields (parts.filterMap Part.type?) := by
  have each := Outcome.mapM_eq_ok.mp formed
  clear formed
  induction each with
  | nil => exact .nil
  | cons first _ ih =>
    obtain ⟨type, read, same⟩ := Outcome.bind_eq_ok.mp first
    cases same
    exact .cons read ih

@[simp] theorem annotations_documented (description : Option String) :
    (documented description).filterMap Part.type? = [] := by
  unfold documented
  split
  · rfl
  · split <;> rfl

theorem annotations_of_plainClass {config : Config} {model : Model} {cls : ClassDef}
    (formed : plainClass config model = .ok cls) :
    cls.name = model.name ∧ List.Forall₂ Writes model.flattened cls.annotations := by
  obtain ⟨parts, ofFields, same⟩ := Outcome.bind_eq_ok.mp formed
  cases same
  have functions : (if config.serialization.isOn then
      [readFields model model.flattened, writeFields model.flattened] else []).filterMap
        Part.type? = [] := by
    split <;> rfl
  refine ⟨rfl, ?_⟩
  simp only [ClassDef.annotations, plainClassOf, List.filterMap_append, annotations_documented,
    functions, List.nil_append, List.append_nil]
  exact annotations_of_fields ofFields

theorem annotations_of_dataClass {config : Config} {model : Model} {cls : ClassDef}
    (formed : dataClass config model = .ok cls) :
    cls.name = model.name ∧ List.Forall₂ Writes model.fields cls.annotations := by
  obtain ⟨parts, ofFields, same⟩ := Outcome.bind_eq_ok.mp formed
  cases same
  refine ⟨rfl, ?_⟩
  simp only [ClassDef.annotations, dataClassOf, List.filterMap_append, annotations_documented,
    List.nil_append]
  exact annotations_of_fields ofFields

theorem annotations_of_unionBase {config : Config} {model : Model} {key : String} {cls : ClassDef}
    (formed : unionBase config model key = .ok cls) :
    cls.name = model.name ∧ List.Forall₂ Writes model.fields cls.annotations := by
  obtain ⟨parts, ofFields, same⟩ := Outcome.bind_eq_ok.mp formed
  cases same
  have functions : (if config.serialization.isOn then [dispatch model key] else []).filterMap
      Part.type? = [] := by
    split <;> rfl
  refine ⟨rfl, ?_⟩
  simp only [ClassDef.annotations, unionBaseOf, List.filterMap_append, annotations_documented,
    functions, List.nil_append, List.append_nil]
  exact annotations_of_fields ofFields

theorem annotations_of_arms {config : Config} {model : Model} {key : String}
    {variants : List Variant} {classes : List ClassDef}
    (formed : variants.mapM (armClass config model key) = .ok classes) :
    List.Forall₂ Writes (variants.flatMap (·.fields)) (classes.flatMap (·.annotations)) := by
  have each := Outcome.mapM_eq_ok.mp formed
  clear formed
  induction each with
  | nil => exact .nil
  | cons first _ ih =>
    obtain ⟨parts, ofFields, same⟩ := Outcome.bind_eq_ok.mp first
    cases same
    exact List.rel_append (annotations_of_fields ofFields) ih

/-- The classes of a model write the types of its fields in order. The first has its name. -/
theorem annotations_of_classesOf {config : Config} {model : Model} {classes : List ClassDef}
    (formed : classesOf config model = .ok classes) :
    (∃ cls ∈ classes, cls.name = model.name) ∧
      List.Forall₂ Writes (writtenFields config model) (classes.flatMap (·.annotations)) := by
  unfold classesOf at formed
  unfold writtenFields
  split at formed
  next plain =>
    rw [if_pos plain]
    obtain ⟨cls, ofModel, same⟩ := Outcome.bind_eq_ok.mp formed
    cases same
    obtain ⟨named, written⟩ := annotations_of_plainClass ofModel
    rw [List.flatMap_singleton]
    exact ⟨⟨cls, List.mem_singleton_self _, named⟩, written⟩
  next unions =>
    rw [if_neg unions]
    split at formed
    next isUnion =>
      rw [if_pos isUnion]
      obtain ⟨key, _, formed⟩ := Outcome.bind_eq_ok.mp formed
      obtain ⟨base, ofBase, formed⟩ := Outcome.bind_eq_ok.mp formed
      obtain ⟨arms, ofArms, same⟩ := Outcome.bind_eq_ok.mp formed
      cases same
      obtain ⟨named, written⟩ := annotations_of_unionBase ofBase
      refine ⟨⟨base, List.mem_cons_self .., named⟩, ?_⟩
      rw [List.flatMap_cons]
      exact List.rel_append written (annotations_of_arms ofArms)
    next noUnion =>
      rw [if_neg noUnion]
      obtain ⟨cls, ofModel, same⟩ := Outcome.bind_eq_ok.mp formed
      cases same
      obtain ⟨named, written⟩ := annotations_of_dataClass ofModel
      rw [List.flatMap_singleton]
      exact ⟨⟨cls, List.mem_singleton_self _, named⟩, written⟩

theorem exists_of_writtenFields {config : Config} {model : Model} {field : Field}
    (isField : field ∈ writtenFields config model) :
    ∃ other ∈ model.allFields, other.name = field.name ∧ other.type = field.type := by
  unfold writtenFields at isField
  split at isField
  next => exact Model.exists_of_flattened isField
  next =>
    split at isField
    next => exact ⟨field, isField, rfl, rfl⟩
    next => exact ⟨field, List.mem_append_left _ isField, rfl, rfl⟩

end Python

end SchemaCodegen
