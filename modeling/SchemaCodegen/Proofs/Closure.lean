import SchemaCodegen.Proofs.Splitting
import SchemaCodegen.Proofs.Units
import SchemaCodegen.Proofs.WrittenTypes

/-!
# Units are closed under references

A unit declares its models; the classes of arms are parts of a union and no models. Every model that
a type of the unit mentions is declared by the unit or imported, each import stands once, and none
is of a model of the unit. If the references of a schema have been checked, all imports are of other
models of the schema, so the unit of all models has none.
-/

namespace SchemaCodegen

/-! ## Mentions -/

namespace FieldType

/-- Whether a model is named by a reference, or by the references in an array at some depth. -/
inductive Mentions : FieldType → String → Prop
  | plain {name : String} : name ≠ "" → Mentions (.plain .reference (some name)) name
  | nested {name : String} {item : FieldType} : name ≠ "" →
      Mentions (.nested .reference (some name) item) name
  | array {target : Option String} {item : FieldType} {name : String} : Mentions item name →
      Mentions (.nested .array target item) name

theorem mem_references_of_mentions {type : FieldType} {name : String}
    (mentions : type.Mentions name) : name ∈ type.references := by
  induction mentions with
  | plain set => simp [references, referenced?, kind, target?, set]
  | nested set => simp [references, referenced?, kind, target?, set]
  | array _ ih => exact ih

/-- The references of a type are the models that it mentions. -/
theorem mem_references {type : FieldType} {name : String} :
    name ∈ type.references ↔ type.Mentions name := by
  refine ⟨?_, mem_references_of_mentions⟩
  rw [references_eq_core, Option.mem_toList]
  intro named
  induction type using rec_core with
  | plain kind target =>
    obtain ⟨rfl, rfl, set⟩ := referenced_eq_some named
    exact .plain set
  | nested kind target item noArray =>
    have same : (nested kind target item).coreReference? = referenced? (.plain kind target) := by
      cases kind <;> first | rfl | exact absurd rfl noArray
    rw [same] at named
    obtain ⟨rfl, rfl, set⟩ := referenced_eq_some named
    exact .nested set
  | array target item ih => exact .array (ih named)

theorem coreReference?_of_mentions {type : FieldType} {name : String}
    (mentions : type.Mentions name) : type.coreReference? = some name := by
  rw [← Option.mem_toList, ← references_eq_core]
  exact mem_references_of_mentions mentions

end FieldType

/-- A type that mentions a model is written as that model, in brackets for the arrays around it. -/
theorem Dart.typeText_of_mentions {type : FieldType} {name : String}
    (mentions : type.Mentions name) :
    Dart.typeText type = listsOf "List<" ">" type.depth name := by
  have named := FieldType.coreReference?_of_mentions mentions
  have isReference := (FieldType.referenced_eq_some named).1
  rw [FieldType.coreReference?] at named
  rw [Dart.typeText_eq, Dart.baseType, named, isReference]
  rfl

theorem Python.typeText_of_mentions {type : FieldType} {name : String}
    (mentions : type.Mentions name) :
    Python.typeText type = listsOf "list[" "]" type.depth name := by
  have named := FieldType.coreReference?_of_mentions mentions
  have isReference := (FieldType.referenced_eq_some named).1
  rw [FieldType.coreReference?] at named
  rw [Python.typeText_eq, Python.baseType, named, isReference]
  rfl

namespace Model

/-- A model refers to what the types of its fields mention. -/
theorem mem_references {model : Model} {name : String} :
    name ∈ model.references ↔ ∃ field ∈ model.allFields, field.type.Mentions name := by
  simp only [references, mem_distinct, List.mem_flatMap, FieldType.mem_references]

end Model

/-! ## The check of references -/

namespace Schema

end Schema

/-! ## What a unit declares and writes -/

/-- A type as it stands in a unit. -/
inductive WrittenType where
  | dart (text : String)
  | python (type : Python.Expr)

/-- The name of a class. -/
def Declaration.name : Declaration → String
  | .dart cls => cls.name
  | .python cls => cls.name

/-- The types of the fields that a class writes. -/
def Declaration.types : Declaration → List WrittenType
  | .dart cls => cls.types.map .dart
  | .python cls => cls.annotations.map .python

/-- The fields that the classes of a model write in the language of a configuration. -/
def writtenFields (config : Config) (model : Model) : List Field :=
  match config.language with
  | .dart => Dart.writtenFields config model
  | .python => Python.writtenFields config model

/-- Whether a type stands in a unit for that of a field. -/
def Field.Writes (field : Field) : WrittenType → Prop
  | .dart text => Dart.Writes field text
  | .python type => Python.Writes field type

theorem types_of_declarationsOf {config : Config} {model : Model} {classes : List Declaration}
    (formed : declarationsOf config model = .ok classes) :
    (∃ cls ∈ classes, cls.name = model.name) ∧
      List.Forall₂ Field.Writes (writtenFields config model) (classes.flatMap (·.types)) := by
  unfold declarationsOf at formed
  unfold writtenFields
  cases language : config.language with
  | dart =>
    rw [language] at formed
    obtain ⟨cls, ofModel, rfl⟩ := Outcome.map_eq_ok.mp formed
    obtain ⟨named, written⟩ := Dart.types_of_classOf ofModel
    rw [List.flatMap_singleton]
    refine ⟨⟨_, List.mem_singleton_self _, named⟩, ?_⟩
    exact List.forall₂_map_right_iff.mpr written
  | python =>
    rw [language] at formed
    obtain ⟨defs, ofModel, rfl⟩ := Outcome.map_eq_ok.mp formed
    obtain ⟨⟨cls, isClass, named⟩, written⟩ := Python.annotations_of_classesOf ofModel
    refine ⟨⟨_, List.mem_map_of_mem isClass, named⟩, ?_⟩
    rw [List.flatMap_map]
    show List.Forall₂ _ _ (defs.flatMap fun cls => cls.annotations.map WrittenType.python)
    rw [← List.map_flatMap]
    exact List.forall₂_map_right_iff.mpr written

theorem exists_of_writtenFields {config : Config} {model : Model} {field : Field}
    (isField : field ∈ writtenFields config model) :
    ∃ other ∈ model.allFields, other.name = field.name ∧ other.type = field.type := by
  unfold writtenFields at isField
  split at isField
  · exact Dart.exists_of_writtenFields isField
  · exact Python.exists_of_writtenFields isField

/-- A unit of some models closed under references. -/
structure Draft.Closed (draft : Draft) (config : Config) (models : List Model) : Prop where
  once : draft.models.Nodup
  foreign : ∀ model ∈ models, model.name ∉ draft.models
  declared : ∀ model ∈ models, ∃ cls ∈ draft.classes, cls.name = model.name
  written : List.Forall₂ Field.Writes (models.flatMap (writtenFields config))
    (draft.classes.flatMap (·.types))
  reached : ∀ field ∈ models.flatMap (writtenFields config), ∀ name, field.type.Mentions name →
    (∃ model ∈ models, model.name = name) ∨ name ∈ draft.models

/-- A unit that is formed with its own models at hand is closed. -/
theorem Draft.Holds.closed {draft : Draft} {config : Config} {models : List Model}
    (holds : draft.Holds config models (models.map (·.name))) : draft.Closed config models := by
  obtain ⟨lists, formed, classes⟩ := holds.classes
  have each := Outcome.mapM_eq_ok.mp formed
  constructor
  case once =>
    rw [holds.models]
    exact Model.nodup_distinct _
  case foreign =>
    intro model isModel imported
    rw [holds.models, Model.mem_imported] at imported
    exact imported.2 (List.mem_map_of_mem isModel)
  case declared =>
    intro model isModel
    obtain ⟨declarations, isList, ofModel⟩ := Outcome.exists_mem_of_mapM formed isModel
    obtain ⟨⟨cls, isClass, named⟩, _⟩ := types_of_declarationsOf ofModel
    rw [classes]
    exact ⟨cls, List.mem_flatten.mpr ⟨declarations, isList, isClass⟩, named⟩
  case written =>
    rw [classes]
    clear formed classes holds
    induction each with
    | nil => exact .nil
    | cons first _ ih =>
      rw [List.flatMap_cons, List.flatten_cons, List.flatMap_append]
      exact List.rel_append (types_of_declarationsOf first).2 ih
  case reached =>
    intro field isField name mentions
    obtain ⟨model, isModel, isWritten⟩ := List.mem_flatMap.mp isField
    obtain ⟨other, isOther, _, sameType⟩ := exists_of_writtenFields isWritten
    rw [← sameType] at mentions
    have refers : name ∈ model.references := Model.mem_references.mpr ⟨other, isOther, mentions⟩
    by_cases isDeclared : name ∈ models.map (·.name)
    · exact .inl (List.mem_map.mp isDeclared)
    · rw [holds.models, Model.mem_imported]
      exact .inr ⟨⟨model, isModel, refers⟩, isDeclared⟩

/-! ## The units of a rendering -/

namespace Generation

/-- A unit that is rendered is formed as a draft first, whose text may be handed to a tool. -/
theorem exists_draft {generation : Generation} {tool : Option Formatter} {models : List Model}
    {fileStem : String} {atHand : List String} {code : String}
    (rendered : (do
      generation.formatted tool (← renderUnit generation.config models fileStem atHand)) = .ok code) :
    ∃ draft, (Backend.draft { config := generation.config } models fileStem atHand).1 = .ok draft ∧
      generation.formatted tool draft.written = .ok code := by
  obtain ⟨text, ofUnit, formatted⟩ := Outcome.bind_eq_ok.mp rendered
  obtain ⟨draft, drafted, rfl⟩ := Outcome.map_eq_ok.mp ofUnit
  exact ⟨draft, drafted, formatted⟩

end Generation

end SchemaCodegen
