import SchemaCodegen.Proofs.Places
import SchemaCodegen.Proofs.Renaming

/-!
# What documents give

A model that is read from a document is no union and no enumeration, it has each field once, and the
types of its fields are well formed. Only the first model of a document can be marked as a base. All
names are class names, and these never need a new ending, so renaming leaves what was read as it is.
-/

namespace SchemaCodegen

open Json (Value Members)

/-! ## Types -/

namespace FieldType

/-- A type with the parts that its kind asks for and no others; nothing is read as an enumeration. -/
structure HasParts (type : FieldType) : Prop where
  item : type.kind = .array ↔ type.item?.isSome
  target : type.kind = .reference ↔ type.target?.isSome
  noEnum : type.kind ≠ .enum

/-- A type that has its parts at every depth. -/
def WellFormed : FieldType → Prop
  | .plain kind target => HasParts (.plain kind target)
  | .nested kind target item => HasParts (.nested kind target item) ∧ WellFormed item

theorem wellFormed_reference (target : String) : (reference target).WellFormed := by
  constructor <;> simp [kind, item?, target?]

theorem wellFormed_array {item : FieldType} (isItem : item.WellFormed) :
    (array item).WellFormed := by
  refine ⟨?_, isItem⟩
  constructor <;> simp [kind, item?, target?]

/-- A kind alone is well formed unless it asks for a part. -/
theorem wellFormed_of {kind : Kind} (noArray : kind ≠ .array) (noReference : kind ≠ .reference)
    (noEnum : kind ≠ .enum) : (FieldType.of kind).WellFormed := by
  constructor <;> simp [FieldType.kind, item?, target?, noArray, noReference, noEnum]

theorem wellFormed_ofKeywords (members : Members) : (ofKeywords members).WellFormed := by
  unfold ofKeywords
  split
  next => split <;> apply wellFormed_of <;> decide
  next name _ _ =>
    unfold simple?
    split <;> apply wellFormed_of <;> decide
  next => apply wellFormed_of <;> decide

mutual
theorem wellFormed_of_ofNode {naming : Setting Naming} {path : String} {type : FieldType} :
    ∀ {node : Value}, ofNode naming path node = .ok type → type.WellFormed
  | .obj members, resolved => by
    rw [ofNode] at resolved
    split at resolved
    next =>
      cases items : ofItems naming path members with
      | error fault =>
        rw [items] at resolved
        cases resolved
      | ok item =>
        rw [items] at resolved
        cases resolved
        exact wellFormed_array (wellFormed_of_ofItems items)
    next =>
      split at resolved
      · obtain ⟨conventions, _, resolved⟩ := Outcome.bind_eq_ok.mp resolved
        obtain ⟨target, _, same⟩ := Outcome.bind_eq_ok.mp resolved
        cases same
        exact wellFormed_reference target
      · cases resolved
        exact wellFormed_ofKeywords members
  | .null, resolved | .bool _, resolved | .int _, resolved | .float _, resolved | .str _, resolved
  | .arr _, resolved => by
    rw [ofNode.eq_def] at resolved
    cases resolved
    apply wellFormed_of <;> decide
theorem wellFormed_of_ofItems {naming : Setting Naming} {path : String} {type : FieldType} :
    ∀ {members : List (String × Value)}, ofItems naming path members = .ok type → type.WellFormed
  | [], resolved => by
    rw [ofItems] at resolved
    cases resolved
  | (key, value) :: rest, resolved => by
    rw [ofItems.eq_def] at resolved
    simp only at resolved
    split at resolved
    next =>
      split at resolved
      · cases resolved
      · exact wellFormed_of_ofNode resolved
    next => exact wellFormed_of_ofItems resolved
end

end FieldType

/-! ## Fields and models -/

/-- A field as it is read: with a well-formed type and without marks. -/
structure Field.IsParsed (field : Field) : Prop where
  type : field.type.WellFormed
  noId : field.isId = false
  notUnique : field.isUnique = false
  noAttributes : field.attributes = none

theorem Node.isParsed_of_field {naming : Setting Naming} {path : String} {required : List String}
    {name : String} {node : Value} {field : Field}
    (formed : Node.field naming path required name node = .ok field) : field.IsParsed := by
  obtain ⟨type, resolved, same⟩ := Outcome.bind_eq_ok.mp formed
  cases same
  exact ⟨FieldType.wellFormed_of_ofNode resolved, rfl, rfl, rfl⟩

namespace Model

/-- A model as it is read, whether or not it is marked as a base. -/
structure IsParsed (model : Model) : Prop where
  noVariants : model.variants = none
  noEnum : model.isEnum = false
  once : model.fieldNames.Nodup
  fields : ∀ field ∈ model.fields, field.IsParsed

/-- A model without the marks of a base. -/
structure IsUnmarked (model : Model) : Prop where
  notAbstract : model.isAbstract = false
  noKey : model.unionKey = none
  noCases : model.unionCases = none

/-- A model whose name was formed by some conventions. -/
def IsNamedBy (naming : Setting Naming) (model : Model) : Prop :=
  ∃ conventions raw, naming.namer.conventions = .ok conventions ∧
    conventions.className raw = .ok model.name

/-- What the model of a node is like. -/
theorem ofNode_isParsed {naming : Setting Naming} {name label : String} {members : Members}
    {description : Option String} {model : Model}
    (formed : Model.ofNode naming name label members description = .ok model) :
    model.IsParsed ∧ model.IsUnmarked ∧ model.IsNamedBy naming := by
  obtain ⟨⟨others, isNamer, isNamed⟩, different, _⟩ := Model.ofNode_eq_ok formed
  obtain ⟨conventions, _, formed⟩ := Outcome.bind_eq_ok.mp formed
  obtain ⟨className, _, formed⟩ := Outcome.bind_eq_ok.mp formed
  obtain ⟨ordering, _, formed⟩ := Outcome.bind_eq_ok.mp formed
  obtain ⟨names, _, formed⟩ := Outcome.bind_eq_ok.mp formed
  obtain ⟨fields, ofNames, same⟩ := Outcome.bind_eq_ok.mp formed
  cases same
  have each := Node.fields_eq_ok ofNames
  refine ⟨⟨rfl, rfl, different, ?_⟩, ⟨rfl, rfl, rfl⟩, others, name, isNamer, isNamed⟩
  intro field isField
  obtain ⟨_, _, ofName⟩ := Outcome.exists_left each isField
  exact Node.isParsed_of_field ofName

end Model

/-! ## Documents -/

/-- The models of a document as they are read: of these only the first can be marked as a base. -/
structure Schema.IsParsed (naming : Setting Naming) (schema : Schema) : Prop where
  models : ∀ model ∈ schema.models, model.IsParsed
  unmarked : ∀ model ∈ schema.models.tail, model.IsUnmarked
  named : ∀ model ∈ schema.models, model.IsNamedBy naming

namespace Document

/-- Models without marks are as they are read. -/
theorem isParsed_of_unmarked {naming : Setting Naming} {schema : Schema}
    (each : ∀ model ∈ schema.models,
      model.IsParsed ∧ model.IsUnmarked ∧ model.IsNamedBy naming) : schema.IsParsed naming := by
  refine ⟨fun model isModel => (each model isModel).1, ?_, fun model isModel => (each model isModel).2.2⟩
  intro model isLater
  exact (each model (List.mem_of_mem_tail isLater)).2.1

theorem isParsed_of_form {naming : Setting Naming} {steps : List Step} {models : List Model}
    (formed : form naming steps = .ok models) :
    ∀ model ∈ models, model.IsParsed ∧ model.IsUnmarked ∧ model.IsNamedBy naming := by
  intro model isModel
  obtain ⟨_, _, _, ofNode⟩ := Outcome.exists_left (form_eq_ok formed) isModel
  exact Model.ofNode_isParsed ofNode

theorem isParsed_of_split {config : Config} {document : Members} {schema : Schema}
    (formed : Conditional.split config document = .ok schema.models) :
    schema.IsParsed config.naming := by
  obtain ⟨names, _, formed⟩ := Outcome.bind_eq_ok.mp formed
  split at formed
  next =>
    have empty := Except.ok.inj formed
    apply isParsed_of_unmarked
    rw [← empty]
    exact nofun
  next =>
    obtain ⟨title, base, first, second, _, ofBase, ofFirst, ofSecond, three⟩ :=
      Conditional.models_eq_ok formed
    have isBase := Model.ofNode_isParsed ofBase
    have isFirst := Model.ofNode_isParsed ofFirst
    have isSecond := Model.ofNode_isParsed ofSecond
    -- a parent or the marks of a base change nothing else
    have base' : Model.IsParsed { base with
        isAbstract := true
        unionKey := some names.key
        unionCases := some [(Conditional.caseName names.value, names.firstClass),
          (Conditional.caseName !names.value, names.secondClass)] } :=
      ⟨isBase.1.noVariants, isBase.1.noEnum, isBase.1.once, isBase.1.fields⟩
    have later : ∀ variant : Model, variant.IsParsed → variant.IsUnmarked →
        Model.IsParsed { variant with parent := some names.baseClass } ∧
          Model.IsUnmarked { variant with parent := some names.baseClass } := by
      intro variant parsed unmarked
      exact ⟨⟨parsed.noVariants, parsed.noEnum, parsed.once, parsed.fields⟩,
        ⟨unmarked.notAbstract, unmarked.noKey, unmarked.noCases⟩⟩
    have first' := later first isFirst.1 isFirst.2.1
    have second' := later second isSecond.1 isSecond.2.1
    constructor
    case models =>
      rw [three]
      simp only [List.forall_mem_cons]
      exact ⟨base', first'.1, second'.1, nofun⟩
    case unmarked =>
      rw [three, List.tail_cons]
      simp only [List.forall_mem_cons]
      exact ⟨first'.2, second'.2, nofun⟩
    case named =>
      rw [three]
      simp only [List.forall_mem_cons]
      exact ⟨isBase.2.2, isFirst.2.2, isSecond.2.2, nofun⟩

end Document

/-- What is read from a document is as it should be, whatever the document holds. -/
theorem Schema.isParsed_of_document {config : Config} {document : Value} {schema : Schema}
    (parsed : Schema.ofDocument config document = .ok schema) : schema.IsParsed config.naming := by
  cases document with
  | obj members =>
    obtain ⟨models, formed, same⟩ := Outcome.bind_eq_ok.mp parsed
    cases same
    unfold Document.models at formed
    split at formed
    next => exact Document.isParsed_of_split formed
    next =>
      apply Document.isParsed_of_unmarked
      obtain ⟨found, ofSteps, formed⟩ := Outcome.bind_eq_ok.mp formed
      split at formed
      next =>
        obtain ⟨root, ofRoot, same⟩ := Outcome.bind_eq_ok.mp formed
        cases same
        obtain ⟨conventions, _, ofRoot⟩ := Outcome.bind_eq_ok.mp ofRoot
        obtain ⟨name, _, ofNode⟩ := Outcome.bind_eq_ok.mp ofRoot
        exact List.forall_mem_singleton.mpr (Model.ofNode_isParsed ofNode)
      next =>
        cases formed
        exact Document.isParsed_of_form ofSteps
  | _ =>
    cases parsed
    exact Document.isParsed_of_unmarked nofun

/-! ## Names -/

/-- A name whose ending was looked at needs no other: if it had the reserved one, that was replaced. -/
theorem Naming.needsNewEnding_withNewEnding {naming : Naming} {old name : String}
    (given : naming.withNewEnding old = .ok name) : naming.needsNewEnding name = .ok false := by
  obtain ⟨ending, isEnding, given⟩ := Outcome.bind_eq_ok.mp given
  have typed := get_eq_ok isEnding
  split at given
  next isEnd =>
    obtain ⟨replacement, isReplacement, same⟩ := Outcome.bind_eq_ok.mp given
    cases same
    rw [needsNewEnding_of_typed typed (get_eq_ok isReplacement), isEndOf_replaced]
    simp
  next isNoEnd =>
    cases given
    rw [needsNewEnding, isEnding, Outcome.ok_bind, if_neg isNoEnd]
    rfl

/-- A class name never needs a new ending. -/
theorem Naming.needsNewEnding_className {naming : Naming} {raw name : String}
    (named : naming.className raw = .ok name) : naming.needsNewEnding name = .ok false :=
  needsNewEnding_withNewEnding named

/-- There are no new names for models that need none. -/
theorem Renaming.ofModels_eq_nil {naming : Naming} {models : List Model}
    (none_ : ∀ model ∈ models, naming.needsNewEnding model.name = .ok false) :
    ofModels naming models = .ok [] := by
  induction models with
  | nil => rfl
  | cons model rest ih =>
    obtain ⟨ofModel, ofRest⟩ := List.forall_mem_cons.mp none_
    rw [ofModels, ih ofRest, Outcome.ok_bind, ofModel]
    rfl

theorem FieldType.rename_id (type : FieldType) : type.rename id = type := by
  induction type with
  | plain kind target => cases kind <;> simp [rename]
  | nested kind target item ih => cases kind <;> simp [rename, ih]

theorem Field.rename_id (field : Field) : field.rename id = field := by
  rw [rename, FieldType.rename_id]

theorem Variant.rename_id (variant : Variant) : variant.rename id = variant := by
  have fields : variant.fields.map (·.rename id) = variant.fields := by
    simp [Field.rename_id]
  rw [rename, fields]

theorem Model.rename_id (model : Model) : model.rename id = model := by
  have fields : model.fields.map (·.rename id) = model.fields := by
    simp [Field.rename_id]
  have variants : model.variants.map (·.map (·.rename id)) = model.variants := by
    cases model.variants <;> simp [Variant.rename_id]
  have cases_ : model.unionCases.map (·.mapValues id) = model.unionCases := by
    cases model.unionCases <;> simp [Entries.mapValues]
  rw [rename, fields, variants, cases_]
  simp

theorem Schema.rename_id (schema : Schema) : schema.rename id = schema := by
  have models : schema.models.map (·.rename id) = schema.models := by
    simp [Model.rename_id]
  rw [rename, models]

/-- Without new names a schema stays. -/
theorem Schema.normalize_of_newNames {naming : Setting Naming} {schema : Schema}
    (none_ : schema.newNames naming = .ok []) : schema.normalize naming = .ok schema := by
  have stays : Renaming.apply [] = id := rfl
  rw [normalize, none_, Outcome.ok_bind, stays, rename_id]
  rfl

/-- Renaming leaves what was read from a document as it is. -/
theorem Schema.IsParsed.normalize {naming : Setting Naming} {schema : Schema}
    (parsed : schema.IsParsed naming) : schema.normalize naming = .ok schema := by
  have noNames : schema.newNames naming = .ok [] := by
    unfold newNames
    split
    next => rfl
    next some_ =>
      obtain ⟨first, rest, isCons⟩ := List.exists_cons_of_ne_nil some_
      obtain ⟨conventions, _, isNamer, _⟩ := parsed.named first (isCons ▸ List.mem_cons_self ..)
      rw [isNamer, Outcome.ok_bind]
      apply Renaming.ofModels_eq_nil
      intro model isModel
      obtain ⟨others, raw, isSame, named⟩ := parsed.named model isModel
      rw [isNamer] at isSame
      cases isSame
      exact Naming.needsNewEnding_className named
  exact normalize_of_newNames noNames

end SchemaCodegen
