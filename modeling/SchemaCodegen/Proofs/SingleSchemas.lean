import SchemaCodegen.Proofs.Places
import SchemaCodegen.Proofs.Renaming

/-!
# Single schemas

A document whose only object is a table of properties is read as one model of that table, unless the
table itself holds models: as an entry of a container it does if its own properties are called like
the keywords that are looked for there. Containers go first, so then the document is read as one.
-/

namespace SchemaCodegen

open Json (Value Members)
open Outcome (FailsBy failsBy_ok failsBy_error)

/-! ## Faults of types and fields -/

/-- Whether the conventions on class names and fields are all texts. -/
structure Naming.IsTyped (conventions : Naming) : Prop where
  ending : ∃ text, conventions.ending = .typed text
  replacement : ∃ text, conventions.replacement = .typed text
  rootName : ∃ text, conventions.rootName = .typed text
  orderKey : ∃ text, conventions.orderKey = .typed text

/-- An array that says nothing of its items. -/
def Fault.LacksItems (fault : Fault) : Prop := ∃ path, fault = .missingKeyword "items" path

theorem Naming.exists_className {conventions : Naming} (typed : conventions.IsTyped) (raw : String) :
    ∃ name, conventions.className raw = .ok name := by
  obtain ⟨ending, reserved⟩ := typed.ending
  obtain ⟨replacement, replaced⟩ := typed.replacement
  cases isEnd : Ending.isEndOf ending (Words.pascalCase raw) with
  | true => exact ⟨_, withNewEnding_of_isEndOf reserved replaced isEnd⟩
  | false => exact ⟨_, withNewEnding_of_not_isEndOf reserved isEnd⟩

section

variable {conventions : Naming}

namespace FieldType

mutual
/-- Where names can be formed, a type can only fail to be told for want of items. -/
theorem failsBy_ofNode (typed : conventions.IsTyped) : ∀ (node : Value) (path : String),
    FailsBy Fault.LacksItems (ofNode (.typed conventions) path node)
  | .obj members, path => by
    rw [ofNode]
    split
    next isArray =>
      have items := failsBy_ofItems typed members path
      cases given : ofItems (.typed conventions) path members with
      | error fault => exact failsBy_error (items fault given)
      | ok item => exact failsBy_ok _
    next noArray =>
      split
      next reference _ =>
        obtain ⟨name, named⟩ := Naming.exists_className typed (lastPart reference.display)
        rw [ofReference, Setting.conventions, Outcome.ok_bind, named]
        exact failsBy_ok _
      next => exact failsBy_ok _
  | .null, _ | .bool _, _ | .int _, _ | .float _, _ | .str _, _ | .arr _, _ => by
    rw [ofNode.eq_def]
    exact failsBy_ok _
theorem failsBy_ofItems (typed : conventions.IsTyped) : ∀ (members : List (String × Value))
    (path : String), FailsBy Fault.LacksItems (ofItems (.typed conventions) path members)
  | [], path => by
    rw [ofItems]
    exact failsBy_error ⟨path, rfl⟩
  | (key, value) :: rest, path => by
    rw [ofItems.eq_def]
    simp only
    split
    next isItems =>
      split
      · exact failsBy_error ⟨path, rfl⟩
      · exact failsBy_ofNode typed value _
    next other => exact failsBy_ofItems typed rest path
end

end FieldType

namespace Node

theorem failsBy_fields (typed : conventions.IsTyped) (path : String) (members : Members)
    (names : List String) :
    FailsBy Fault.LacksItems (fields (.typed conventions) path members names) := by
  induction names with
  | nil => exact failsBy_ok []
  | cons name rest ih =>
    apply FailsBy.bind
    · apply (FieldType.failsBy_ofNode typed _ _).bind
      intro type _
      exact failsBy_ok _
    · intro first _
      apply ih.bind
      intro others _
      exact failsBy_ok _

/-- A list without arrays and objects is an explicit order. -/
theorem exists_listed {items : List Value} (simple : ∀ item ∈ items, item.isCompound = false) :
    ∃ names, listed items = .ok names := by
  induction items with
  | nil => exact ⟨[], rfl⟩
  | cons item rest ih =>
    obtain ⟨isSimple, others⟩ := List.forall_mem_cons.mp simple
    obtain ⟨names, given⟩ := ih others
    exact ⟨item.text?.toList ++ names, by simp [listed, isSimple, given]⟩

theorem exists_propertyNames (typed : conventions.IsTyped) {members : Members}
    (simple : ∀ key items, conventions.orderKey = .typed key →
      Entries.get? members key = some (.arr items) → ∀ item ∈ items, item.isCompound = false) :
    ∃ names, propertyNames conventions members = .ok names := by
  obtain ⟨key, isKey⟩ := typed.orderKey
  obtain ⟨explicit, ordered⟩ : ∃ explicit, order conventions members = .ok explicit := by
    rw [order, Naming.orderKeyword, isKey]
    simp only [Outcome.ok_bind]
    split
    next items given => exact exists_listed (simple key items isKey given)
    next => exact ⟨[], rfl⟩
  exact ⟨_, by rw [propertyNames, ordered]; rfl⟩

end Node

end

/-! ## Tables that hold models -/

namespace Document

/-- Whether an entry holds models: a wrapped schema with properties, properties of its own, or else
some definition that is an object. -/
def HoldsModels (node : Members) : Prop :=
  if Entries.has node "schema" then Entries.has (Node.object node "schema") "properties" = true
  else Entries.has node "properties" = true ∨
    ∃ name inner, (name, Value.obj inner) ∈ Node.object node "definitions"

theorem definitionPlaces_eq_nil {block : String} {definitions : Members} :
    definitionPlaces block definitions = [] ↔ ∀ name inner, (name, Value.obj inner) ∉ definitions := by
  rw [definitionPlaces, List.filterMap_eq_nil_iff]
  constructor
  · intro none_ name inner isIn
    cases none_ _ isIn
  · rintro none_ ⟨name, value⟩ isIn
    cases value with
    | obj inner => exact absurd isIn (none_ name inner)
    | _ => rfl

theorem entryPlaces_eq_nil {key : String} {node : Members} :
    entryPlaces key node = [] ↔ ¬HoldsModels node := by
  rw [entryPlaces, HoldsModels]
  by_cases wrapped : Entries.has node "schema" = true
  · by_cases inner : Entries.has (Node.object node "schema") "properties" = true <;>
      simp [wrapped, inner]
  · by_cases own : Entries.has node "properties" = true
    · simp [wrapped, own]
    · simp [wrapped, own, definitionPlaces_eq_nil]

theorem places_eq_nil {document : Members} (none_ : ∀ key node, (key, Value.obj node) ∉ document) :
    places document = [] := by
  rw [places, List.flatMap_eq_nil_iff]
  rintro ⟨key, value⟩ isIn
  cases value with
  | obj node => exact absurd isIn (none_ key node)
  | _ => rfl

/-- A document with one object has the places in that. -/
theorem places_of_only {document node : Members} {key : String} (different : document.keys.Nodup)
    (held : Entries.get? document key = some (.obj node))
    (only : ∀ other members, (other, Value.obj members) ∈ document → other = key) :
    places document = entryPlaces key node := by
  induction document with
  | nil => cases held
  | cons first rest ih =>
    obtain ⟨name, value⟩ := first
    rw [Entries.keys, List.map_cons, List.nodup_cons] at different
    rw [Entries.get?_cons] at held
    by_cases same : name = key
    · -- the object is here, and behind it there is none
      subst same
      rw [if_pos rfl] at held
      cases held
      have others : places rest = [] := by
        apply places_eq_nil
        intro other members isIn
        have isName := only other members (List.mem_cons_of_mem _ isIn)
        exact different.1 (List.mem_map.mpr ⟨_, isIn, isName⟩)
      show entryPlaces name node ++ places rest = _
      rw [others, List.append_nil]
    · rw [if_neg same] at held
      have later := ih different.2 held fun other members isIn =>
        only other members (List.mem_cons_of_mem _ isIn)
      cases value with
      | obj members => exact absurd (only name members (List.mem_cons_self ..)) same
      | _ => exact later

/-! ## One schema for a document -/

/-- A document whose only object is its table of properties. Its title is some text if it has one, and
an order of its properties has texts only. -/
structure IsSingle (conventions : Naming) (document properties : Members) : Prop where
  different : document.keys.Nodup
  unconditional : Conditional.isConditional document = false
  table : Entries.get? document "properties" = some (.obj properties)
  only : ∀ key members, (key, Value.obj members) ∈ document → key = "properties"
  titled : ∀ value, Entries.get? document "title" = some value → ∃ title, value = .str title ∧ title ≠ ""
  ordered : ∀ key items, conventions.orderKey = .typed key →
    Entries.get? document key = some (.arr items) → ∀ item ∈ items, ∃ name, item = .str name

/-- What names the model of a single schema: its title, or else the name for those without. -/
def rootTitle (conventions : Naming) (document : Members) : Option String :=
  Node.text? document "title" <|> conventions.rootName.get.toOption

section

variable {config : Config} {conventions : Naming} {document properties : Members}
  (isTyped : config.naming = .typed conventions) (typed : conventions.IsTyped)
  (single : IsSingle conventions document properties)
include single

theorem IsSingle.places_eq : places document = entryPlaces "properties" properties :=
  places_of_only single.different single.table single.only

theorem IsSingle.has_properties : Entries.has document "properties" = true := by
  rw [Entries.has, single.table]
  rfl

include typed

theorem IsSingle.exists_title : ∃ title, rootTitle conventions document = some title ∧
    Conditional.titleOr document conventions.rootName = .str title := by
  obtain ⟨default, isDefault⟩ := typed.rootName
  rw [rootTitle, Node.text?, Conditional.titleOr, isDefault]
  cases given : Entries.get? document "title" with
  | none => exact ⟨default, rfl, rfl⟩
  | some value =>
    obtain ⟨title, rfl, some_⟩ := single.titled value given
    have isSet : (Value.str title).isSet = true := by simpa [Value.isSet] using some_
    refine ⟨title, rfl, ?_⟩
    simp only [isSet, if_true]

include isTyped

/-- The single model fails only for want of items. Otherwise it has the title and the properties of the
document. -/
theorem IsSingle.root_cases :
    (∃ path, root config.naming document = .error (.missingKeyword "items" path)) ∨
      ∃ model title, root config.naming document = .ok model ∧
        rootTitle conventions document = some title ∧
        conventions.className title = .ok model.name ∧
        Node.propertyNames conventions document = .ok model.fieldNames := by
  obtain ⟨title, isTitle, ofTitle⟩ := single.exists_title typed
  obtain ⟨name, named⟩ := Naming.exists_className typed title
  obtain ⟨names, ordered⟩ : ∃ names, Node.propertyNames conventions document = .ok names := by
    apply Node.exists_propertyNames typed
    intro key items isKey given item isItem
    obtain ⟨text, rfl⟩ := single.ordered key items isKey given item isItem
    rfl
  have formed : root config.naming document =
      Model.ofNode (.typed conventions) title title document := by
    rw [root, isTyped, Setting.conventions, Outcome.ok_bind, ofTitle]
    rfl
  rw [formed]
  cases made : Model.ofNode (.typed conventions) title title document with
  | ok model =>
    obtain ⟨others, isOthers, isName, isOrder⟩ := typed_of_ofNode made
    cases isOthers
    exact .inr ⟨model, title, rfl, isTitle, isName, isOrder⟩
  | error fault =>
    left
    have failsBy : FailsBy Fault.LacksItems (Model.ofNode (.typed conventions) title title document) := by
      rw [Model.ofNode, Setting.namer, Setting.conventions, Outcome.ok_bind, named, Outcome.ok_bind,
        Outcome.ok_bind, ordered, Outcome.ok_bind]
      apply (Node.failsBy_fields typed _ _ _).bind
      intro fields _
      exact failsBy_ok _
    obtain ⟨path, rfl⟩ := failsBy fault made
    exact ⟨path, rfl⟩

/-- A document with one table of properties is read as the model of that table if the table itself
holds no models; this can only fail for want of items. A table that holds models is read as an entry
of a container, with one model for each place in it. -/
theorem ofDocument_of_single :
    (¬HoldsModels properties →
      (∃ path, Schema.ofDocument config (.obj document) = .error (.missingKeyword "items" path)) ∨
        ∃ schema model title, Schema.ofDocument config (.obj document) = .ok schema ∧
          schema.models = [model] ∧ rootTitle conventions document = some title ∧
          conventions.className title = .ok model.name ∧ model.fieldNames.Nodup ∧
          ∀ name, name ∈ model.fieldNames ↔ name ∈ properties.keys) ∧
    (HoldsModels properties → ∀ schema, Schema.ofDocument config (.obj document) = .ok schema →
      schema.models ≠ [] ∧ List.Forall₂ (fun place model =>
        conventions.className place.1.raw = .ok model.name ∧ model.fieldNames.Nodup ∧
          ∀ name, name ∈ model.fieldNames ↔ name ∈ (Node.object place.2 "properties").keys)
        (entryPlaces "properties" properties) schema.models) := by
  constructor
  · intro none_
    have noPlaces : places document = [] := by
      rw [single.places_eq]
      exact entryPlaces_eq_nil.mpr none_
    have asRoot := @ofDocument_of_no_places config document single.unconditional noPlaces
      single.has_properties
    rw [asRoot]
    rcases single.root_cases isTyped typed with ⟨path, fails⟩ | ⟨model, title, made, isTitle, named, ordered⟩
    · rw [fails]
      exact .inl ⟨path, rfl⟩
    · rw [made]
      obtain ⟨different, areKeys⟩ := Node.propertyNames_eq_ok ordered
      have isTable : Node.object document "properties" = properties := by
        rw [Node.object, single.table]
      rw [isTable] at areKeys
      exact .inr ⟨_, model, title, rfl, rfl, isTitle, named, different, areKeys⟩
  · intro some_ schema parsed
    have held : places document ≠ [] := by
      rw [single.places_eq, Ne, entryPlaces_eq_nil]
      exact not_not.mpr some_
    have each := models_of_places single.unconditional held parsed
    rw [single.places_eq] at each held
    constructor
    · intro none_
      rw [none_] at each
      exact held (List.forall₂_nil_right_iff.mp each)
    · apply each.imp
      rintro place model ⟨_, formed⟩
      obtain ⟨others, isOthers, named, ordered⟩ := typed_of_ofNode formed
      rw [isTyped] at isOthers
      cases isOthers
      exact ⟨named, Node.propertyNames_eq_ok ordered⟩

end

/-- A document of a title and a table of properties. -/
def titled (title : String) (properties : Members) : Members :=
  [("title", .str title), ("properties", .obj properties)]

theorem isSingle_titled {title : String} (some_ : title ≠ "") (properties : Members) :
    IsSingle {} (titled title properties) properties where
  different := by
    show ["title", "properties"].Nodup
    decide
  unconditional := rfl
  table := rfl
  only := by
    intro key members isIn
    simp only [titled, List.mem_cons, Prod.mk.injEq, reduceCtorEq, and_false, List.not_mem_nil, or_false,
      false_or] at isIn
    exact isIn.1
  titled := by
    intro value given
    cases given
    exact ⟨title, rfl, some_⟩
  ordered := by
    intro key items isKey given
    cases isKey
    cases given

theorem isTyped_default : Naming.IsTyped {} := ⟨⟨_, rfl⟩, ⟨_, rfl⟩, ⟨_, rfl⟩, ⟨_, rfl⟩⟩

/-- The properties of a person. -/
def personProperties : Members :=
  [("name", .obj [("type", .str "string")]), ("definitions", .obj [("type", .str "integer")])]

/-- A property called `definitions` is one like any other if it holds no objects. -/
theorem ofDocument_of_single_person : ∃ schema model,
    Schema.ofDocument {} (.obj (titled "person" personProperties)) = .ok schema ∧
      schema.models = [model] ∧ model.name = "Person" ∧ model.fieldNames.Nodup ∧
      ∀ name, name ∈ model.fieldNames ↔ name ∈ ["name", "definitions"] := by
  have noModels : ¬HoldsModels personProperties := by
    rw [← @entryPlaces_eq_nil "properties"]
    decide +kernel
  obtain ⟨asTable, _⟩ := @ofDocument_of_single {} {} (titled "person" personProperties)
    personProperties rfl isTyped_default (isSingle_titled (by decide) _)
  have isOk : Outcome.any (Schema.ofDocument {} (.obj (titled "person" personProperties)))
      (fun _ => true) = true := by
    decide +kernel
  obtain ⟨schema, parsed, _⟩ := Outcome.any_iff.mp isOk
  rcases asTable noModels with ⟨path, fails⟩ | ⟨other, model, title, isOther, single, isTitle, named,
    different, areKeys⟩
  · rw [parsed] at fails
    cases fails
  · cases isTitle
    have isPerson : Naming.className {} "person" = .ok "Person" := by decide +kernel
    rw [isPerson] at named
    exact ⟨other, model, isOther, single, (Except.ok.inj named).symm, different, areKeys⟩

/-- The properties of a form, of which one is called `properties`. -/
def formProperties : Members :=
  [("properties", .obj [("type", .str "object")]), ("name", .obj [("type", .str "string")])]

/-- A form is read as a container with one entry, whose properties are taken to be the keywords of a
property. -/
theorem ofDocument_misreads_form : IsSingle {} (titled "form" formProperties) formProperties ∧
    ∃ schema model, Schema.ofDocument {} (.obj (titled "form" formProperties)) = .ok schema ∧
      schema.models = [model] ∧ model.name = "Properties" ∧ model.fieldNames = ["type"] := by
  refine ⟨isSingle_titled (by decide) _, ?_⟩
  have run : Outcome.any (Schema.ofDocument {} (.obj (titled "form" formProperties))) (fun schema =>
      schema.models.map (fun model => (model.name, model.fieldNames)) = [("Properties", ["type"])]) =
        true := by
    decide +kernel
  obtain ⟨schema, parsed, holds⟩ := Outcome.any_iff.mp run
  obtain ⟨model, isModel, named⟩ := List.map_eq_singleton_iff.mp (of_decide_eq_true holds)
  rw [Prod.mk.injEq] at named
  exact ⟨schema, model, parsed, isModel, named⟩

end Document

end SchemaCodegen
