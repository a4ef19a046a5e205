import SchemaCodegen.Proofs.LookedUpNames
import SchemaCodegen.Proofs.Units

/-!
# Imports of helpers

Each part of a class asks for the helpers that it looks up, apart from annotations, for which only
the kind of the innermost type is asked. So a unit imports all that it looks up if its annotations do
not name more than that: no type that is written as anything though it has another kind, and no
reference whose text is more than a name.
-/

namespace SchemaCodegen.Python

/-! ## Fields -/

section Fields

variable {config : Config} {field : Field} {helper : Helper}

theorem names_encoder {type : FieldType} : helper.name ∉ (encoder type).names := by
  intro looked
  rcases names_dump looked with isValue | isItem
  · exact helper.not_mem_of_own (by decide) isValue
  · exact @Helper.not_mem_of_own ["e"] (by decide) helper (List.mem_singleton.mpr isItem)

/-- A helper that reading a value looks up is noted with the type, or reads by a type. -/
theorem helper_of_castName {type : FieldType} (noReference : type.coreReference? ≠ some helper.name)
    {name : String} (named : helper.name = name) (ofType : CastName type name) :
    (helper = .cast ∧ castTakes type = true) ∨ helper ∈ Helper.ofType type := by
  cases ofType with
  | own isOwn => exact absurd (named ▸ isOwn) helper.name_not_mem_ownNames
  | cast takes => exact .inl ⟨Helper.name_inj.mp named, takes⟩
  | datetime isDateTime =>
    have isHelper : helper = .datetime := Helper.name_inj.mp named
    rw [Helper.ofType_eq, isDateTime, isHelper]
    exact .inr (List.mem_singleton_self _)
  | reference isReference => exact absurd (named ▸ isReference) noReference

theorem names_metadata (noReference : field.type.coreReference? ≠ some helper.name)
    {argument : String × Expr} (isArgument : argument ∈ metadata config field)
    (looked : helper.name ∈ argument.2.names) : helper ∈ fieldHelpers config field := by
  have some_ : (metadata config field).isEmpty = false := by
    rw [List.isEmpty_eq_false_iff]
    exact List.ne_nil_of_mem isArgument
  rw [metadata] at isArgument
  split at isArgument
  next =>
    rcases List.mem_append.mp isArgument with isKey | isCodec
    · split at isKey
      · cases isKey
      · rw [List.mem_singleton.mp isKey] at looked
        cases looked
    · split at isCodec
      next holds =>
        rcases List.mem_cons.mp isCodec with rfl | isDecoder
        · exact absurd looked names_encoder
        · rw [List.mem_singleton.mp isDecoder] at looked
          rcases names_cast looked with isValue | ofType
          · exact absurd isValue (helper.not_mem_of_own (by decide))
          · rcases helper_of_castName noReference rfl ofType with ⟨rfl, takes⟩ | noted
            · refine List.mem_append_right _ ?_
              rw [valueHelpers, some_, holds, takes]
              simp
            · exact List.mem_append_left _ noted
      next => cases isCodec
  next => cases isArgument

/-- The value of a field looks up what was noted for it, if the default is a constant. -/
theorem names_fieldValue {default : Option Expr} (constant : ∀ e ∈ default, e.names = [])
    (noReference : field.type.coreReference? ≠ some helper.name)
    (looked : helper.name ∈
      (fieldValue (metadata config field) default).toList.flatMap (·.names)) :
    helper ∈ fieldHelpers config field := by
  rw [fieldValue] at looked
  split at looked
  next =>
    obtain ⟨e, isDefault, isName⟩ := List.mem_flatMap.mp looked
    rw [constant e (Option.mem_toList.mp isDefault)] at isName
    cases isName
  next some_ =>
    have asks : helper = .field ∨ helper = .config → helper ∈ fieldHelpers config field := by
      intro isHelper
      refine List.mem_append_right _ ?_
      rw [valueHelpers, if_neg some_]
      rcases isHelper with rfl | rfl <;> simp
    simp only [Option.toList_some, List.flatMap_singleton, Expr.names, Expr.namesOfAll,
      List.append_nil, List.mem_append, Expr.mem_namesOfNamed, List.mem_singleton] at looked
    rcases looked with isField | ⟨argument, isDefault | rfl, isName⟩
    · exact asks (.inl (Helper.name_inj.mp isField))
    · obtain ⟨e, isGiven, rfl⟩ := List.mem_map.mp isDefault
      rw [constant e (Option.mem_toList.mp isGiven)] at isName
      cases isName
    · simp only [Expr.names, Expr.namesOfAll, List.append_nil, List.mem_append,
        Expr.mem_namesOfNamed, List.mem_singleton] at isName
      rcases isName with isConfig | ⟨entry, isEntry, isName⟩
      · exact asks (.inr (Helper.name_inj.mp isConfig))
      · exact names_metadata noReference isEntry isName

/-- A field looks up what its annotation does and what was noted for it. -/
theorem names_fieldOf {default : Option Expr} {type : Expr}
    (constant : ∀ e ∈ default, e.names = [])
    (noReference : field.type.coreReference? ≠ some helper.name)
    (looked : helper.name ∈ (fieldOf config field default type).names) :
    helper.name ∈ type.names ∨ helper ∈ fieldHelpers config field := by
  have constantOrNull : ∀ e ∈ default <|> (if field.nullable then some null else none),
      e.names = [] := by
    intro e isDefault
    cases default with
    | some given => exact constant e isDefault
    | none =>
      cases nullable : field.nullable with
      | false =>
        rw [nullable] at isDefault
        cases isDefault
      | true =>
        rw [nullable] at isDefault
        cases isDefault
        rfl
  rcases List.mem_append.mp looked with isType | inValue
  · exact .inl isType
  · exact .inr (names_fieldValue constantOrNull noReference inValue)

end Fields

/-- A helper that the annotation of a field looks up, and that is not noted with its type. -/
def Missed (field : Field) (helper : Helper) : Prop :=
  ∃ type, Writes field type ∧ helper.name ∈ type.names ∧ helper ∉ Helper.ofType field.type

/-- The parts for some fields look up what was noted for one of them, or what was missed. -/
theorem names_of_fields {config : Config} {helper : Helper} {default : Field → Option Expr}
    {fields : List Field} {parts : List Part}
    (constant : ∀ field, ∀ e ∈ default field, e.names = [])
    (noReference : ∀ field ∈ fields, field.type.coreReference? ≠ some helper.name)
    (formed : (fields.mapM fun field => fieldPart config field (default field)) = .ok parts)
    (looked : helper.name ∈ parts.flatMap (·.names)) :
    ∃ field ∈ fields, helper ∈ fieldHelpers config field ∨ Missed field helper := by
  obtain ⟨part, isPart, isName⟩ := List.mem_flatMap.mp looked
  obtain ⟨field, isField, made⟩ := Outcome.exists_left (Outcome.mapM_eq_ok.mp formed) isPart
  obtain ⟨type, read, same⟩ := Outcome.bind_eq_ok.mp made
  cases same
  refine ⟨field, isField, ?_⟩
  rcases names_fieldOf (constant field) (noReference field isField) isName with isType | noted
  · by_cases ofType : helper ∈ Helper.ofType field.type
    · exact .inl (List.mem_append_left _ ofType)
    · exact .inr ⟨type, read, isType, ofType⟩
  · exact .inl noted

theorem names_of_ownFields {config : Config} {helper : Helper} {fields : List Field}
    {parts : List Part}
    (noReference : ∀ field ∈ fields, field.type.coreReference? ≠ some helper.name)
    (formed : (fields.mapM fun field => fieldPart config field) = .ok parts)
    (looked : helper.name ∈ parts.flatMap (·.names)) :
    ∃ field ∈ fields, helper ∈ fieldHelpers config field ∨ Missed field helper := by
  have constant : ∀ _ : Field, ∀ e ∈ (none : Option Expr), e.names = [] := fun _ _ => nofun
  exact names_of_fields constant noReference formed looked

/-! ## Classes -/

section Classes

variable {config : Config} {helper : Helper} {model : Model}

theorem names_documented (description : Option String) :
    (documented description).flatMap (·.names) = [] := by
  unfold documented
  split
  · rfl
  · split <;> rfl

theorem names_decorators {withLibrary : Bool}
    (looked : helper.name ∈ (decorators config withLibrary).flatMap (·.names)) :
    helper ∈ commonHelpers config ∨ (withLibrary = true ∧ helper ∈ libraryHelpers config) := by
  rw [decorators, List.flatMap_append] at looked
  rcases List.mem_append.mp looked with isLibrary | isOwn
  · split at isLibrary
    next both =>
      rw [Bool.and_eq_true] at both
      have isHelper : helper = .dataclassJson := Helper.name_inj.mp (List.mem_singleton.mp isLibrary)
      refine .inr ⟨both.1, ?_⟩
      rw [libraryHelpers, if_pos both.2, isHelper]
      exact List.mem_singleton_self _
    next => cases isLibrary
  · have isHelper : helper = .dataclass := Helper.name_inj.mp (List.mem_singleton.mp isOwn)
    rw [isHelper, commonHelpers]
    exact .inl (List.mem_append_right _ (List.mem_singleton_self _))

theorem names_anyObject (looked : helper.name ∈ anyObject.names) : helper = .any := by
  have isName : helper.name ∈ ["dict", "str"] ∨ helper.name = "Any" := by
    simpa [anyObject, Expr.names, Expr.namesOfAll, or_assoc] using looked
  rcases isName with isOwn | isAny
  · exact absurd isOwn (helper.not_mem_of_own (by decide))
  · exact Helper.name_inj.mp isAny

theorem names_reader {returns : String} {body : List Step}
    (looked : helper.name ∈ (reader returns body).names) :
    helper = .any ∨ helper.name = returns ∨ helper.name ∈ body.flatMap (·.names) := by
  have isName : helper.name = "classmethod" ∨ helper.name ∈ anyObject.names ∨
      helper.name = returns ∨ helper.name ∈ body.flatMap (·.names) := by
    simpa [reader, Part.names, Function.names, Expr.names, or_assoc] using looked
  rcases isName with isOwn | isObject | isReturned
  · exact absurd (List.mem_singleton.mpr isOwn) (@Helper.not_mem_of_own ["classmethod"] (by decide) _)
  · exact .inl (names_anyObject isObject)
  · exact .inr isReturned

theorem names_readFields {fields : List Field} (otherModel : model.name ≠ helper.name)
    (noReference : ∀ field ∈ fields, field.type.coreReference? ≠ some helper.name)
    (looked : helper.name ∈ (readFields model fields).names) :
    helper = .any ∨ (helper = .cast ∧ fields.any (castTakes ·.type) = true) ∨
      ∃ field ∈ fields, helper ∈ fieldHelpers config field := by
  rcases names_reader looked with isAny | isModel | isRead
  · exact .inl isAny
  · exact absurd isModel.symm otherModel
  have isArgument : helper.name = "cls" ∨ ∃ field ∈ fields,
      helper.name ∈ (cast field.type field.nullable (sourceOf field)).names := by
    simpa [Step.names, Expr.names, Expr.namesOfAll, Expr.mem_namesOfNamed] using isRead
  rcases isArgument with isOwn | ⟨field, isField, isName⟩
  · exact absurd (List.mem_singleton.mpr isOwn) (@Helper.not_mem_of_own ["cls"] (by decide) _)
  rcases names_cast isName with isSource | ofType
  · have isOwn : helper.name ∈ ["data"] := by
      unfold sourceOf at isSource
      split at isSource
      · simpa [method, quoted, data, Expr.names, Expr.namesOfAll, Expr.namesOfNamed] using isSource
      · simpa [quoted, data, Expr.names] using isSource
    exact absurd isOwn (helper.not_mem_of_own (by decide))
  · rcases helper_of_castName (noReference field isField) rfl ofType with ⟨isCast, takes⟩ | noted
    · exact .inr (.inl ⟨isCast, List.any_eq_true.mpr ⟨field, isField, takes⟩⟩)
    · exact .inr (.inr ⟨field, isField, List.mem_append_left _ noted⟩)

theorem names_writeFields {fields : List Field} (looked : helper.name ∈ (writeFields fields).names) :
    helper = .any := by
  have isName : helper.name ∈ anyObject.names ∨ ∃ field ∈ fields, helper.name ∈
      (dump field.type field.nullable (.attribute (.name "self") (attributeName field.name))).names := by
    simpa [writeFields, Part.names, Function.names, Step.names, quoted, Expr.names,
      Expr.mem_namesOfEntries] using looked
  rcases isName with isObject | ⟨field, _, isValue⟩
  · exact names_anyObject isObject
  · have isOwn : helper.name ∈ ["self", "e"] := by
      rcases names_dump isValue with isSelf | isItem
      · rw [List.mem_singleton.mp isSelf]
        exact List.mem_cons_self ..
      · rw [isItem]
        simp
    exact absurd isOwn (helper.not_mem_of_own (by decide))

theorem names_dispatch {key : String} (otherModel : model.name ≠ helper.name)
    (looked : helper.name ∈ (dispatch model key).names) : helper = .abc ∨ helper = .any := by
  rcases names_reader looked with isAny | isModel | isRead
  · exact .inr isAny
  · exact absurd isModel.symm otherModel
  have isName : (∃ variant ∈ model.arms, helper.name = model.armClass variant) ∨
      helper.name ∈ ["variants", "data"] := by
    cases arm : model.defaultArm? with
    | none =>
      simpa [arm, Step.names, method, data, quoted, truth, Expr.names, Expr.namesOfAll,
        Expr.namesOfNamed, Expr.mem_namesOfEntries] using isRead
    | some variant =>
      simpa [arm, Step.names, method, data, quoted, truth, Expr.names, Expr.namesOfAll,
        Expr.namesOfNamed, Expr.mem_namesOfEntries] using isRead
  rcases isName with ⟨variant, _, isArm⟩ | isOwn
  · exact Helper.eq_abc_or_any otherModel isArm
  · exact absurd isOwn (helper.not_mem_of_own (by decide))

/-- Neither the name of a model nor one that it refers to is that of a helper. -/
structure Unlike (model : Model) (helper : Helper) : Prop where
  name : model.name ≠ helper.name
  references : helper.name ∉ model.references

theorem Unlike.field (unlike : Unlike model helper) {field : Field}
    (isField : field ∈ writtenFields config model) :
    field.type.coreReference? ≠ some helper.name := by
  intro refers
  obtain ⟨other, isOther, _, sameType⟩ := exists_of_writtenFields isField
  apply unlike.references
  rw [Model.references, Model.mem_distinct, List.mem_flatMap]
  refine ⟨other, isOther, ?_⟩
  rw [sameType, FieldType.references_eq_core, refers]
  exact List.mem_singleton_self _

/-- What a class looks up is a helper that every unit imports, one that its model asks for, or one
that was missed. -/
def Accounted (config : Config) (model : Model) (helper : Helper) : Prop :=
  helper ∈ commonHelpers config ∨ helper ∈ modelHelpers config model ∨
    ∃ field ∈ writtenFields config model, Missed field helper

theorem accounted_of_decorators {withLibrary : Bool}
    (asked : withLibrary = true → libraryHelpers config ⊆ modelHelpers config model)
    (looked : helper.name ∈ (decorators config withLibrary).flatMap (·.names)) :
    Accounted config model helper := by
  rcases names_decorators looked with common | ⟨isWith, isLibrary⟩
  · exact .inl common
  · exact .inr (.inl (asked isWith isLibrary))

theorem accounted_plainClass {cls : ClassDef} (plain : (!config.unions.isOn) = true)
    (unlike : Unlike model helper) (formed : plainClass config model = .ok cls)
    (looked : helper.name ∈ cls.names) : Accounted config model helper := by
  obtain ⟨parts, ofFields, same⟩ := Outcome.bind_eq_ok.mp formed
  cases same
  have written : writtenFields config model = model.flattened := if_pos plain
  have asked : modelHelpers config model = model.flattened.flatMap (fieldHelpers config) ++
      objectHelpers config ++ castHelpers config model.flattened := if_pos plain
  have noReference : ∀ field ∈ model.flattened, field.type.coreReference? ≠ some helper.name := by
    rw [← written]
    exact fun _ isField => unlike.field isField
  have ofField : (∃ field ∈ model.flattened, helper ∈ fieldHelpers config field) →
      Accounted config model helper := by
    rintro ⟨field, isField, noted⟩
    refine .inr (.inl ?_)
    rw [asked]
    exact List.mem_append_left _ (List.mem_append_left _ (List.mem_flatMap.mpr ⟨field, isField, noted⟩))
  have ofAny : config.serialization.isOn = true → helper = .any → Accounted config model helper := by
    rintro isOn rfl
    refine .inr (.inl ?_)
    rw [asked, objectHelpers, if_pos isOn]
    simp
  have parted : helper.name ∈ (decorators config false).flatMap (·.names) ∨
      helper.name ∈ parts.flatMap (·.names) ∨ (config.serialization.isOn = true ∧
        (helper.name ∈ (readFields model model.flattened).names ∨
          helper.name ∈ (writeFields model.flattened).names)) := by
    cases isOn : config.serialization.isOn <;>
      simpa [ClassDef.names, plainClassOf, names_documented, isOn] using looked
  rcases parted with isDecorator | isField | ⟨isOn, isRead | isWritten⟩
  · exact accounted_of_decorators (fun isWith => Bool.noConfusion isWith) isDecorator
  · obtain ⟨field, isField, noted | missed⟩ :=
      names_of_ownFields noReference ofFields isField
    · exact ofField ⟨field, isField, noted⟩
    · exact .inr (.inr ⟨field, written ▸ isField, missed⟩)
  · rcases names_readFields unlike.name noReference isRead with isAny | ⟨rfl, takes⟩ | noted
    · exact ofAny isOn isAny
    · refine .inr (.inl ?_)
      rw [asked, castHelpers, isOn, takes]
      simp
    · exact ofField noted
  · exact ofAny isOn (names_writeFields isWritten)

theorem accounted_dataClass {cls : ClassDef} (unions : ¬(!config.unions.isOn) = true)
    (noUnion : ¬model.isUnion = true) (unlike : Unlike model helper)
    (formed : dataClass config model = .ok cls) (looked : helper.name ∈ cls.names) :
    Accounted config model helper := by
  obtain ⟨parts, ofFields, same⟩ := Outcome.bind_eq_ok.mp formed
  cases same
  have written : writtenFields config model = model.fields := by
    rw [writtenFields, if_neg unions, if_neg noUnion]
  have asked : modelHelpers config model =
      model.fields.flatMap (fieldHelpers config) ++ libraryHelpers config := by
    rw [modelHelpers, if_neg unions, if_neg noUnion]
  have noReference : ∀ field ∈ model.fields, field.type.coreReference? ≠ some helper.name := by
    rw [← written]
    exact fun _ isField => unlike.field isField
  have parted : helper.name ∈ (decorators config true).flatMap (·.names) ∨
      helper.name ∈ parts.flatMap (·.names) := by
    simpa [ClassDef.names, dataClassOf, names_documented] using looked
  rcases parted with isDecorator | isField
  · refine accounted_of_decorators (fun _ _ isLibrary => ?_) isDecorator
    rw [asked]
    exact List.mem_append_right _ isLibrary
  · obtain ⟨field, isField, noted | missed⟩ := names_of_ownFields noReference ofFields isField
    · refine .inr (.inl ?_)
      rw [asked]
      exact List.mem_append_left _ (List.mem_flatMap.mpr ⟨field, isField, noted⟩)
    · exact .inr (.inr ⟨field, written ▸ isField, missed⟩)

section Unions

variable (unions : ¬(!config.unions.isOn) = true) (isUnion : model.isUnion = true)
include unions isUnion

theorem modelHelpers_of_union : modelHelpers config model =
    .abc :: model.allFields.flatMap (fieldHelpers config) ++ objectHelpers config ++
      libraryHelpers config := by
  rw [modelHelpers, if_neg unions, if_pos isUnion]

/-- The fields of a union are all accounted for, be they of its base or of an arm. -/
theorem accounted_of_field {field : Field} (isField : field ∈ model.allFields)
    (names : helper ∈ fieldHelpers config field ∨ Missed field helper) :
    Accounted config model helper := by
  rcases names with noted | missed
  · refine .inr (.inl ?_)
    rw [modelHelpers_of_union unions isUnion]
    have isNoted := List.mem_flatMap.mpr ⟨field, isField, noted⟩
    simp [isNoted]
  · refine .inr (.inr ⟨field, ?_, missed⟩)
    rw [writtenFields, if_neg unions, if_pos isUnion]
    exact isField

theorem Unlike.allField (unlike : Unlike model helper) {field : Field}
    (isField : field ∈ model.allFields) : field.type.coreReference? ≠ some helper.name := by
  apply @Unlike.field config _ _ unlike
  rw [writtenFields, if_neg unions, if_pos isUnion]
  exact isField

theorem accounted_unionBase {key : String} {cls : ClassDef} (unlike : Unlike model helper)
    (formed : unionBase config model key = .ok cls) (looked : helper.name ∈ cls.names) :
    Accounted config model helper := by
  obtain ⟨parts, ofFields, same⟩ := Outcome.bind_eq_ok.mp formed
  cases same
  have noReference : ∀ field ∈ model.fields, field.type.coreReference? ≠ some helper.name :=
    fun _ isField => unlike.allField unions isUnion (List.mem_append_left _ isField)
  have asked := modelHelpers_of_union unions isUnion
  have parted : helper.name = "ABC" ∨ helper.name ∈ (decorators config false).flatMap (·.names) ∨
      helper.name ∈ parts.flatMap (·.names) ∨
        (config.serialization.isOn = true ∧ helper.name ∈ (dispatch model key).names) := by
    cases isOn : config.serialization.isOn <;>
      simpa [ClassDef.names, unionBaseOf, names_documented, isOn] using looked
  have ofAbc : helper = .abc → Accounted config model helper := by
    rintro rfl
    refine .inr (.inl ?_)
    rw [asked]
    simp
  rcases parted with isBase | isDecorator | isField | ⟨isOn, isDispatch⟩
  · exact ofAbc (Helper.name_inj.mp isBase)
  · exact accounted_of_decorators (fun isWith => Bool.noConfusion isWith) isDecorator
  · obtain ⟨field, isField, names⟩ := names_of_ownFields noReference ofFields isField
    exact accounted_of_field unions isUnion (List.mem_append_left _ isField) names
  · rcases names_dispatch unlike.name isDispatch with isAbc | isAny
    · exact ofAbc isAbc
    · refine .inr (.inl ?_)
      rw [asked, objectHelpers, if_pos isOn, isAny]
      simp

theorem accounted_armClass {key : String} {variant : Variant} {cls : ClassDef}
    (isArm : variant ∈ model.arms) (unlike : Unlike model helper)
    (formed : armClass config model key variant = .ok cls) (looked : helper.name ∈ cls.names) :
    Accounted config model helper := by
  obtain ⟨parts, ofFields, same⟩ := Outcome.bind_eq_ok.mp formed
  cases same
  have among : ∀ field ∈ variant.fields, field ∈ model.allFields := fun field isField =>
    List.mem_append_right _ (List.mem_flatMap.mpr ⟨variant, isArm, isField⟩)
  have noReference : ∀ field ∈ variant.fields, field.type.coreReference? ≠ some helper.name :=
    fun _ isField => unlike.allField unions isUnion (among _ isField)
  have constant : ∀ field, ∀ e ∈ armDefault key variant field, e.names = [] := by
    intro field e isDefault
    unfold armDefault at isDefault
    split at isDefault
    · cases isDefault
      rfl
    · cases isDefault
  have parted : helper.name = model.name ∨ helper.name ∈ (decorators config true).flatMap (·.names) ∨
      helper.name ∈ parts.flatMap (·.names) := by
    simpa [ClassDef.names, armClassOf] using looked
  rcases parted with isModel | isDecorator | isField
  · exact absurd isModel.symm unlike.name
  · refine accounted_of_decorators (fun _ _ isLibrary => ?_) isDecorator
    rw [modelHelpers_of_union unions isUnion]
    exact List.mem_append_right _ isLibrary
  · obtain ⟨field, isField, names⟩ := names_of_fields constant noReference ofFields isField
    exact accounted_of_field unions isUnion (among _ isField) names

end Unions

theorem accounted_classesOf {classes : List ClassDef} (unlike : Unlike model helper)
    (formed : classesOf config model = .ok classes)
    (looked : helper.name ∈ classes.flatMap (·.names)) : Accounted config model helper := by
  obtain ⟨cls, isClass, isName⟩ := List.mem_flatMap.mp looked
  unfold classesOf at formed
  split at formed
  next plain =>
    obtain ⟨made, ofModel, same⟩ := Outcome.bind_eq_ok.mp formed
    cases same
    rw [List.mem_singleton.mp isClass] at isName
    exact accounted_plainClass plain unlike ofModel isName
  next unions =>
    split at formed
    next isUnion =>
      obtain ⟨key, _, formed⟩ := Outcome.bind_eq_ok.mp formed
      obtain ⟨base, ofBase, formed⟩ := Outcome.bind_eq_ok.mp formed
      obtain ⟨arms, ofArms, same⟩ := Outcome.bind_eq_ok.mp formed
      cases same
      rcases List.mem_cons.mp isClass with rfl | isArm
      · exact accounted_unionBase unions isUnion unlike ofBase isName
      · obtain ⟨variant, isVariant, made⟩ := Outcome.exists_left (Outcome.mapM_eq_ok.mp ofArms) isArm
        exact accounted_armClass unions isUnion isVariant unlike made isName
    next noUnion =>
      obtain ⟨made, ofModel, same⟩ := Outcome.bind_eq_ok.mp formed
      cases same
      rw [List.mem_singleton.mp isClass] at isName
      exact accounted_dataClass unions noUnion unlike ofModel isName

end Classes

/-! ## Annotations -/

section Annotations

variable {helper : Helper}

theorem names_listsIn {depth : Nat} {base : Expr} :
    helper.name ∈ (listsIn depth base).names ↔ helper.name ∈ base.names := by
  induction depth with
  | zero => exact Iff.rfl
  | succ depth ih =>
    have noList := @Helper.not_mem_of_own ["list"] (by decide) helper
    rw [listsIn, Expr.names, List.mem_append, ih]
    exact or_iff_right noList

theorem names_of_lists {depth : Nat} {base type : Expr}
    (isLists : type = listsIn depth base ∨ type = .binary .bitOr (listsIn depth base) null) :
    helper.name ∈ type.names ↔ helper.name ∈ base.names := by
  rcases isLists with rfl | rfl
  · exact names_listsIn
  · rw [Expr.names, List.mem_append, names_listsIn]
    exact or_iff_left List.not_mem_nil

/-- A name that can be a type by itself, or a constant. -/
theorem names_word {text : String} {base : Expr} (isBase : Reading.word? text = some base) :
    base.names = [] ∨ base = .name text := by
  unfold Reading.word? at isBase
  repeat' split at isBase
  all_goals cases isBase
  all_goals first | exact .inl rfl | exact .inr rfl

/-- A type that is written as anything, though no helper is noted for its kind. -/
def Bare (type : FieldType) : Prop :=
  (type.coreKind = .reference ∨ type.coreKind = .array) ∧ type.coreReference? = none

theorem mem_names_name (other : Helper) :
    helper.name ∈ (Expr.name other.name).names ↔ helper = other :=
  List.mem_singleton.trans Helper.name_inj

/-- A reference is written as its name, or as anything if it has none. -/
theorem names_referenceExpr {target : Option String} {base : Expr}
    (isBase : baseExpr? .reference target = some base)
    (noReference : (FieldType.plain .reference target).referenced? ≠ some helper.name) :
    helper.name ∈ base.names ↔
      (FieldType.plain .reference target).referenced? = none ∧ helper = .any := by
  have text : baseType .reference target =
      (FieldType.plain .reference target).referenced?.getD "Any" := rfl
  rw [baseExpr?, if_neg (by decide), text] at isBase
  cases referenced : (FieldType.plain .reference target).referenced? with
  | none =>
    rw [referenced] at isBase
    cases isBase
    have any : helper.name ∈ (Expr.name "Any").names ↔ helper = .any := mem_names_name .any
    exact any.trans (and_iff_right rfl).symm
  | some name =>
    rw [referenced, Option.getD_some] at isBase
    rw [referenced] at noReference
    rcases names_word isBase with none_ | rfl
    · simp [none_]
    · have other : helper.name ≠ name := fun same => noReference (congrArg some same.symm)
      simp [Expr.names, other]

theorem names_baseExpr {kind : Kind} {target : Option String} {base : Expr}
    (isBase : baseExpr? kind target = some base)
    (noReference : (FieldType.plain kind target).referenced? ≠ some helper.name) :
    helper.name ∈ base.names ↔ helper ∈ Helper.ofType.ofKind kind ∨
      (((kind = .reference ∨ kind = .array) ∧ (FieldType.plain kind target).referenced? = none) ∧
        helper = .any) := by
  cases kind with
  | string | integer | float | boolean =>
    cases isBase
    have own := @Helper.not_mem_of_own ["str", "int", "float", "bool"] (by decide) helper
    simp only [List.mem_cons, List.not_mem_nil, or_false, not_or] at own
    simp [Helper.ofType.ofKind, baseType, simpleType?, Expr.names, own]
  | dateTime =>
    cases isBase
    have datetime : helper.name ∈ (Expr.name (baseType .dateTime target)).names ↔
        helper = .datetime := mem_names_name .datetime
    simpa [Helper.ofType.ofKind] using datetime
  | map =>
    cases isBase
    have any : helper.name ∈ anyObject.names ↔ helper = .any := by
      refine ⟨names_anyObject, ?_⟩
      rintro rfl
      decide
    simpa [Helper.ofType.ofKind] using any
  | enum | unknown | array =>
    cases isBase
    have any : helper.name ∈ (Expr.name "Any").names ↔ helper = .any := mem_names_name .any
    simpa [Helper.ofType.ofKind, baseType, simpleType?, FieldType.referenced?, FieldType.kind]
      using any
  | reference =>
    have named := names_referenceExpr isBase noReference
    simpa [Helper.ofType.ofKind] using named

theorem Writes.unique {field : Field} {type other : Expr} (written : Writes field type)
    (again : Writes field other) : other = type := by
  unfold Writes at written again
  rw [written] at again
  exact (Except.ok.inj again).symm

theorem missed_iff_unnoted {field : Field} {type : Expr} (written : Writes field type) :
    Missed field helper ↔ helper.name ∈ type.names ∧ helper ∉ Helper.ofType field.type := by
  constructor
  · rintro ⟨other, again, missed⟩
    rwa [written.unique again] at missed
  · intro missed
    exact ⟨type, written, missed⟩

/-- If the innermost type is a name, only the helper of anything is missed, where the type is bare. -/
theorem missed_iff_bare {field : Field} (formed : ∃ type, Writes field type)
    (noReference : field.type.coreReference? ≠ some helper.name)
    (plain : ∀ name ∈ field.type.coreReference?, Text.isIdentifier name.toList = true) :
    Missed field helper ↔ Bare field.type ∧ helper = .any := by
  obtain ⟨type, written⟩ := formed
  obtain ⟨base, isBase, isLists⟩ := written.eq_lists plain
  have ofBase := names_baseExpr isBase noReference
  rw [← Helper.ofType_eq] at ofBase
  rw [missed_iff_unnoted written, names_of_lists isLists, ofBase]
  constructor
  · rintro ⟨noted | bare, unnoted⟩
    · exact absurd noted unnoted
    · exact bare
  · rintro ⟨bare, isAny⟩
    refine ⟨.inr ⟨bare, isAny⟩, ?_⟩
    rw [Helper.ofType_eq]
    rcases bare.1 with isReference | isArray
    · rw [isReference]
      exact List.not_mem_nil
    · rw [isArray]
      exact List.not_mem_nil

/-- Nothing is noted with a reference, so all that its text looks up is missed. -/
theorem missed_iff_text {field : Field} {type : Expr} {name : String} (written : Writes field type)
    (isName : name ∈ field.type.coreReference?) :
    Missed field helper ↔ helper.name ∈ type.names := by
  have unnoted : helper ∉ Helper.ofType field.type := by
    rw [Helper.ofType_eq, (FieldType.referenced_eq_some isName).1]
    exact List.not_mem_nil
  rw [missed_iff_unnoted written]
  exact and_iff_left unnoted

/-- What is missed in an annotation: the helper of anything where a type is bare, and the helpers in
the text of a reference that is no single name. -/
theorem missed_iff {field : Field} (noReference : field.type.coreReference? ≠ some helper.name)
    (formed : ∃ type, Writes field type) :
    Missed field helper ↔ (Bare field.type ∧ helper = .any) ∨
      ∃ name ∈ field.type.coreReference?, Text.isIdentifier name.toList = false ∧
        ∃ type, Writes field type ∧ helper.name ∈ type.names := by
  by_cases plain : ∀ name ∈ field.type.coreReference?, Text.isIdentifier name.toList = true
  · have noText : ¬∃ name ∈ field.type.coreReference?, Text.isIdentifier name.toList = false ∧
        ∃ type, Writes field type ∧ helper.name ∈ type.names := by
      rintro ⟨name, isName, other, _⟩
      rw [plain name isName] at other
      cases other
    rw [missed_iff_bare formed noReference plain, or_iff_left noText]
  · obtain ⟨type, written⟩ := formed
    simp only [not_forall, Bool.not_eq_true] at plain
    obtain ⟨name, isName, other⟩ := plain
    have noBare : ¬Bare field.type := by
      rintro ⟨_, none_⟩
      rw [none_] at isName
      cases isName
    rw [missed_iff_text written isName]
    constructor
    · intro looked
      exact .inr ⟨name, isName, other, type, written, looked⟩
    · rintro (⟨bare, _⟩ | ⟨_, _, _, again, same, looked⟩)
      · exact absurd bare noBare
      · rwa [written.unique same] at looked

end Annotations

/-! ## Modules -/

/-- Whether a helper is imported from its module before the classes. -/
def Module.Imports (module : Module) (helper : Helper) : Prop :=
  ∃ entry ∈ module.helpers.flatten, entry.level = 0 ∧ entry.module = helper.module ∧
    helper.name ∈ entry.names

theorem imports_of_iff {config : Config} {used : List Helper} {classes : List ClassDef}
    {siblings : List Import} {helper : Helper} :
    (Module.of config used classes siblings).Imports helper ↔ helper ∈ used := by
  have brought := @Helper.mem_imports used (helper.module, helper.name)
  constructor
  · rintro ⟨entry, isEntry, _, sameModule, isName⟩
    obtain ⟨other, isUsed, same⟩ :=
      brought.mp ⟨entry, isEntry, helper.name, isName, by rw [sameModule]⟩
    rw [← Helper.name_inj.mp (Prod.mk.inj same).2]
    exact isUsed
  · intro isUsed
    obtain ⟨entry, isEntry, name, isName, same⟩ := brought.mpr ⟨helper, isUsed, rfl⟩
    obtain ⟨sameModule, rfl⟩ := Prod.mk.inj same
    exact ⟨entry, isEntry, Helper.level_of_mem_imports isEntry, sameModule, isName⟩

/-- What the annotations of a class look up, the class does. -/
theorem mem_names_of_annotations {cls : ClassDef} {type : Expr} (isType : type ∈ cls.annotations)
    {name : String} (looked : name ∈ type.names) : name ∈ cls.names := by
  obtain ⟨part, isPart, typed⟩ := List.mem_filterMap.mp isType
  refine List.mem_append_right _ (List.mem_flatMap.mpr ⟨part, isPart, ?_⟩)
  cases part with
  | field _ held value =>
    cases typed
    exact List.mem_append_left _ looked
  | documentation _ => cases typed
  | function _ => cases typed

/-- Every field of a model has an annotation, and what it looks up the unit does. -/
theorem exists_annotation {config : Config} {models : List Model} {classes : List (List ClassDef)}
    (formed : models.mapM (classesOf config) = .ok classes) {model : Model} (isModel : model ∈ models)
    {field : Field} (isField : field ∈ writtenFields config model) :
    ∃ type, Writes field type ∧
      ∀ name ∈ type.names, name ∈ classes.flatten.flatMap (·.names) := by
  obtain ⟨own, isOwn, ofModel⟩ := Outcome.exists_mem_of_mapM formed isModel
  have written := (annotations_of_classesOf ofModel).2.flip
  obtain ⟨type, isType, writes⟩ := Outcome.exists_left written isField
  obtain ⟨cls, isClass, isAnnotation⟩ := List.mem_flatMap.mp isType
  refine ⟨type, writes, ?_⟩
  intro name looked
  exact List.mem_flatMap.mpr ⟨cls, List.mem_flatten.mpr ⟨own, isOwn, isClass⟩,
    mem_names_of_annotations isAnnotation looked⟩

theorem module_of_draft {backend : Backend} {models : List Model} {fileStem : String}
    {atHand : List String} {module : Module}
    (formed : (backend.draft models fileStem atHand).1 = .ok (.python module)) :
    ∃ classes siblings, models.mapM (classesOf backend.config) = .ok classes ∧
      module = .of backend.config (unitHelpers backend.config models) classes.flatten siblings := by
  rw [Backend.draft_fst, Draft.ofModels] at formed
  split at formed
  · obtain ⟨_, _, other⟩ := Outcome.map_eq_ok.mp formed
    cases other
  · obtain ⟨_, ofModels, same⟩ := Outcome.map_eq_ok.mp formed
    cases same
    obtain ⟨classes, ofClasses, siblings, _, rfl⟩ := Module.ofModels_eq_ok.mp ofModels
    exact ⟨classes, siblings, ofClasses, rfl⟩

/-- All helpers that the classes of a unit look up are imported, apart from what annotations look up
for two kinds of types: the helper of anything for a bare type, and the helpers in the text of a
reference that is no single name. The unit has all imports if and only if those happen to be imported
for another reason. -/
theorem helpers_imported_iff {backend : Backend} {models : List Model} {fileStem : String}
    {atHand : List String} {module : Module}
    (unlike : ∀ model ∈ models, ∀ helper, helper ≠ .annotations → Unlike model helper)
    (formed : (backend.draft models fileStem atHand).1 = .ok (.python module)) :
    (∀ helper, helper ≠ .annotations → helper.name ∈ module.names → module.Imports helper) ↔
      ∀ model ∈ models, ∀ field ∈ writtenFields backend.config model,
        (Bare field.type → module.Imports .any) ∧
        ∀ name ∈ field.type.coreReference?, Text.isIdentifier name.toList = false →
          ∀ type, Writes field type → ∀ helper, helper ≠ .annotations →
            helper.name ∈ type.names → module.Imports helper := by
  obtain ⟨classes, siblings, ofClasses, rfl⟩ := module_of_draft formed
  constructor
  · intro complete model isModel field isField
    obtain ⟨type, written, looked⟩ := exists_annotation ofClasses isModel isField
    refine ⟨?_, ?_⟩
    · intro bare
      have noReference := (unlike model isModel .any (by decide)).field isField
      obtain ⟨other, again, isAny, _⟩ :=
        (missed_iff noReference ⟨type, written⟩).mpr (.inl ⟨bare, rfl⟩)
      rw [written.unique again] at isAny
      exact complete .any (by decide) (looked _ isAny)
    · intro _ _ _ other again helper isHelper isName
      rw [written.unique again] at isName
      exact complete helper isHelper (looked _ isName)
  · intro conditions helper isHelper looked
    -- a model asks for what its classes look up, unless an annotation alone looks it up
    rw [imports_of_iff, unitHelpers]
    obtain ⟨cls, isClass, isName⟩ := List.mem_flatMap.mp looked
    obtain ⟨own, isOwn, inOwn⟩ := List.mem_flatten.mp isClass
    obtain ⟨model, isModel, ofModel⟩ := Outcome.exists_left (Outcome.mapM_eq_ok.mp ofClasses) isOwn
    have unlikeModel := unlike model isModel helper isHelper
    rcases accounted_classesOf unlikeModel ofModel (List.mem_flatMap.mpr ⟨cls, inOwn, isName⟩) with
      common | asked | ⟨field, isField, missed⟩
    · exact List.mem_append_left _ common
    · exact List.mem_append_right _ (List.mem_flatMap.mpr ⟨model, isModel, asked⟩)
    · obtain ⟨type, written, _⟩ := exists_annotation ofClasses isModel isField
      obtain ⟨ofBare, ofText⟩ := conditions model isModel field isField
      rw [← unitHelpers, ← imports_of_iff]
      rcases (missed_iff (unlikeModel.field isField) ⟨type, written⟩).mp missed with
        ⟨bare, rfl⟩ | ⟨name, isReference, other, text, writes, isText⟩
      · exact ofBare bare
      · exact ofText name isReference other text writes helper isHelper isText

instance (type : FieldType) : Decidable (Bare type) := inferInstanceAs (Decidable (_ ∧ _))

theorem unlike_of_names {model : Model} {names : List String} (isName : model.name ∈ names)
    (refers : ∀ name ∈ model.references, name ∈ names)
    (other : ∀ helper : Helper, helper.name ∉ names) (helper : Helper) : Unlike model helper :=
  ⟨fun same => other helper (same ▸ isName), fun isReference => other helper (refers _ isReference)⟩

/-- Visits with dates, and a union of places. -/
def visitModels : List Model :=
  [{ name := "Visit"
     fields := [{ name := "days", type := .array (.of .dateTime), nullable := true },
      { name := "place", type := .reference "Place" }, { name := "notes", type := .of .map }] },
    { name := "Place"
      unionKey := some "isOpen"
      variants := some [{ fields := [{ name := "isOpen", type := .of .boolean }], isDefault := true }] }]

/-- The unit of visits and places imports each helper that it looks up. -/
theorem helpers_imported_visits : ∃ module,
    (Backend.draft { config := { language := .python } } visitModels "visits" []).1 =
        .ok (.python module) ∧
      ∀ helper, helper ≠ .annotations → helper.name ∈ module.names → module.Imports helper := by
  have isOk : Outcome.any (Backend.draft { config := { language := .python } } visitModels "visits" []).1
      (fun draft => match draft with
        | .python _ => true
        | .dart _ => false) = true := by
    decide +kernel
  obtain ⟨draft, formed, isPython⟩ := Outcome.any_iff.mp isOk
  cases draft with
  | dart library => cases isPython
  | python module =>
    have named : ∀ model ∈ visitModels, model.name ∈ ["Visit", "Place"] ∧
        ∀ name ∈ model.references, name ∈ ["Visit", "Place"] := by
      decide +kernel
    have other : ∀ helper : Helper, helper.name ∉ ["Visit", "Place"] := by
      intro helper
      cases helper <;> decide
    have plain : ∀ model ∈ visitModels, ∀ field ∈ writtenFields { language := .python } model,
        ¬Bare field.type ∧
          ∀ name ∈ field.type.references, Text.isIdentifier name.toList = true := by
      decide +kernel
    refine ⟨module, formed, (helpers_imported_iff ?_ formed).mpr ?_⟩
    · intro model isModel helper _
      obtain ⟨isName, refers⟩ := named model isModel
      exact unlike_of_names isName refers other helper
    · intro model isModel field isField
      obtain ⟨noBare, names⟩ := plain model isModel field isField
      refine ⟨fun bare => absurd bare noBare, ?_⟩
      intro name isReference noName
      rw [FieldType.references_eq_core, isReference] at names
      rw [names name (List.mem_singleton_self _)] at noName
      cases noName

/-- A task whose owner refers to no name. -/
def ownerDocument : Json.Value :=
  .obj [("task", .obj [("properties", .obj [("owner", .obj [("$ref", .str "#/")])])])]

/-- The owner of a task is annotated as anything, which is not imported. -/
theorem helpers_missed_owner : ∃ generation module,
    Generation.ofDocument "task" { language := .python } ownerDocument = .ok generation ∧
      (Backend.draft { config := generation.config } generation.schema.models "task"
        generation.schema.names).1 = .ok (.python module) ∧
      (∀ model ∈ generation.schema.models, ∀ helper, Unlike model helper) ∧
      Helper.any.name ∈ module.names ∧ ¬module.Imports .any := by
  have run : Outcome.any (Generation.ofDocument "task" { language := .python } ownerDocument)
      (fun generation => Outcome.any (Backend.draft { config := generation.config }
        generation.schema.models "task" generation.schema.names).1 fun draft =>
          match draft with
          | .python module =>
            (generation.schema.models.all fun model => model.name = "Task" && model.references = []) &&
              module.names.contains "Any" &&
                !(module.helpers.flatten.flatMap (·.names)).contains "Any"
          | .dart _ => false) = true := by
    decide +kernel
  obtain ⟨generation, formed, run⟩ := Outcome.any_iff.mp run
  obtain ⟨draft, drafted, run⟩ := Outcome.any_iff.mp run
  cases draft with
  | dart library => cases run
  | python module =>
    simp only [Bool.and_eq_true, List.all_eq_true, decide_eq_true_eq, List.contains_iff_mem,
      Bool.not_eq_true', ← Bool.not_eq_true] at run
    obtain ⟨⟨unnamed, looked⟩, missing⟩ := run
    refine ⟨generation, module, formed, drafted, ?_, looked, ?_⟩
    · intro model isModel helper
      obtain ⟨isTask, none_⟩ := unnamed model isModel
      refine ⟨?_, ?_⟩
      · rw [isTask]
        cases helper <;> decide
      · rw [none_]
        exact List.not_mem_nil
    · rintro ⟨entry, isEntry, _, _, isName⟩
      exact missing (List.mem_flatMap.mpr ⟨entry, isEntry, isName⟩)

end SchemaCodegen.Python
