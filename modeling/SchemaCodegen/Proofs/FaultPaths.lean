import SchemaCodegen.Proofs.NestedArrays
import SchemaCodegen.Proofs.Places

/-!
# Where the path of a missing keyword leads

A document fails for a missing keyword only if a property of one of its models lacks items. The path in
the fault is made of the label of the model, the property and a step for each array around. The label is
a key for an entry of the document and for a schema that is wrapped in one, two keys in one for a
definition, and a title for a whole document. So the path leads from the document to the array without
items exactly if the model is an entry itself.
-/

namespace SchemaCodegen

open Json (Value Members)
open Outcome (FailsBy failsBy_ok failsBy_error)

/-! ## Paths into a document -/

namespace Json.Value

/-- What is reached from a value by the keys of objects. -/
def follow (value : Value) : List String → Option Value
  | [] => some value
  | key :: rest => (value.member? key).bind (follow · rest)

theorem follow_append (value : Value) (first second : List String) :
    value.follow (first ++ second) = (value.follow first).bind (·.follow second) := by
  induction first generalizing value with
  | nil => rfl
  | cons key rest ih =>
    rw [List.cons_append, follow, follow]
    cases value.member? key with
    | none => rfl
    | some found => exact ih found

/-- What is reached through an object. -/
theorem follow_cons {members : Members} {key : String} {found : Value}
    (held : Entries.get? members key = some found) (rest : List String) :
    (Value.obj members).follow (key :: rest) = found.follow rest := by
  rw [follow, member?_obj, held, Option.bind_some]

mutual
/-- Whether in every object that can be reached by keys these are different and without slashes. -/
def hasPlainKeys : Value → Bool
  | .obj members => membersHavePlainKeys members
  | _ => true
/-- Whether this holds of an object with these members. -/
def membersHavePlainKeys : List (String × Value) → Bool
  | [] => true
  | (key, value) :: rest =>
    !key.toList.contains '/' && !(Entries.keys rest).contains key && hasPlainKeys value &&
      membersHavePlainKeys rest
end

end Json.Value

namespace Entries

theorem get?_of_mem {α : Type} {entries : Entries α} {key : String} {value : α}
    (different : entries.keys.Nodup) (isEntry : (key, value) ∈ entries) :
    entries.get? key = some value := by
  induction entries with
  | nil => cases isEntry
  | cons entry rest ih =>
    obtain ⟨k, v⟩ := entry
    rw [keys, List.map_cons, List.nodup_cons] at different
    rw [get?_cons]
    rcases List.mem_cons.mp isEntry with same | isLater
    · cases same
      rw [if_pos rfl]
    · have other : k ≠ key := by
        rintro rfl
        exact different.1 (List.mem_map.mpr ⟨_, isLater, rfl⟩)
      rw [if_neg other]
      exact ih different.2 isLater

end Entries

namespace Json.Value

theorem plain_of_members {members : Members} (plain : membersHavePlainKeys members = true) :
    members.keys.Nodup ∧ ∀ key value, (key, value) ∈ members →
      '/' ∉ key.toList ∧ hasPlainKeys value = true := by
  induction members with
  | nil => exact ⟨List.nodup_nil, nofun⟩
  | cons entry rest ih =>
    obtain ⟨k, v⟩ := entry
    simp only [membersHavePlainKeys, Bool.and_eq_true, Bool.not_eq_true'] at plain
    obtain ⟨⟨⟨noSlash, isNew⟩, plainValue⟩, plainRest⟩ := plain
    obtain ⟨different, each⟩ := ih plainRest
    constructor
    · rw [Entries.keys, List.map_cons, List.nodup_cons]
      exact ⟨by simpa [Entries.keys] using isNew, different⟩
    · intro key value isEntry
      rcases List.mem_cons.mp isEntry with same | isLater
      · cases same
        exact ⟨by simpa using noSlash, plainValue⟩
      · exact each key value isLater

/-- The members of an object with plain keys are found under keys without slashes, and are plain. -/
theorem member_of_plain {members : Members} {key : String} {value : Value}
    (plain : hasPlainKeys (.obj members) = true) (isEntry : (key, value) ∈ members) :
    Entries.get? members key = some value ∧ '/' ∉ key.toList ∧ hasPlainKeys value = true := by
  obtain ⟨different, each⟩ := plain_of_members plain
  exact ⟨Entries.get?_of_mem different isEntry, each key value isEntry⟩

end Json.Value

/-- Where a path leads as a pointer: the texts between its slashes, behind the first. -/
def pointer (path : String) : List String :=
  ((Text.pieces '/' path.toList).drop 1).map String.ofList

/-! ## Arrays without items -/

namespace Node

/-- Whether a value says that it is an array, and does not say of what. -/
def LacksItems (node : Value) : Prop :=
  node.member? "type" = some (.str "array") ∧
    (node.member? "items" = none ∨ node.member? "items" = some .null)

theorem lacksItems_of_isArray {node : Value} (isArray : isArray node = true)
    (ends : items? node = none) : LacksItems node := by
  rw [items?, if_pos isArray, Option.filter_eq_none_iff] at ends
  rw [Node.isArray, Bool.and_eq_true, beq_iff_eq] at isArray
  refine ⟨isArray.2, ?_⟩
  cases found : node.member? "items" with
  | none => exact .inl rfl
  | some item => exact .inr (congrArg some (by simpa using ends item found))

theorem member?_of_items? {node item : Value} (goesOn : items? node = some item) :
    node.member? "items" = some item := by
  unfold items? at goesOn
  split at goesOn
  · exact (Option.filter_eq_some_iff.mp goesOn).1
  · cases goesOn

/-- What is reached along items is reached by that key. -/
theorem follow_items (node : Value) :
    node.follow (List.replicate (depth node) "items") = some (last node) := by
  induction node using rec_items with
  | ends node ends =>
    obtain ⟨depth, last⟩ := alongItems_of_none ends
    rw [depth, last]
    rfl
  | goesOn node item goesOn ih =>
    obtain ⟨depth, last⟩ := alongItems_of_some goesOn
    rw [depth, last, List.replicate_succ, Value.follow, member?_of_items? goesOn, Option.bind_some, ih]

end Node

/-! ## What is missed -/

/-- A fault is a missing keyword only as it is described. -/
def Fault.MissesBy (described : String → String → Prop) (fault : Fault) : Prop :=
  ∀ keyword path, fault = .missingKeyword keyword path → described keyword path

theorem Fault.IsUnreported.missesBy {described : String → String → Prop} {fault : Fault}
    (unreported : fault.IsUnreported) : fault.MissesBy described := by
  rintro keyword path rfl
  cases unreported

theorem failsBy_unreported {α : Type} {described : String → String → Prop} {outcome : Outcome α}
    (failsBy : FailsBy Fault.IsUnreported outcome) : FailsBy (Fault.MissesBy described) outcome :=
  fun fault fails => (failsBy fault fails).missesBy

/-- What is missed among some properties whose path begins so. -/
def Node.Misses (front : String) (properties : Members) (keyword path : String) : Prop :=
  keyword = "items" ∧ ∃ property node, Entries.get? properties property = some node ∧
    Node.LacksItems (Node.last node) ∧
    path = Node.below s!"{front}/properties/{property}" (Node.depth node)

theorem FieldType.failsBy_missing (naming : Setting Naming) (path : String) (node : Value) :
    FailsBy (Fault.MissesBy fun keyword place => keyword = "items" ∧
      Node.LacksItems (Node.last node) ∧ place = Node.below path (Node.depth node))
      (ofNode naming path node) := by
  rintro _ fails keyword place rfl
  rw [ofNode_eq] at fails
  cases isArray : Node.isArray (Node.last node) with
  | true =>
    rw [ofNode_of_no_items isArray (Node.items?_last node)] at fails
    cases fails
    exact ⟨rfl, Node.lacksItems_of_isArray isArray (Node.items?_last node), rfl⟩
  | false =>
    cases given : ofNode naming (Node.below path (Node.depth node)) (Node.last node) with
    | ok type =>
      rw [given] at fails
      cases fails
    | error fault =>
      rw [given] at fails
      cases fails
      exact absurd given (ofNode_ne_missing isArray _ _)

namespace Node

theorem failsBy_listed (items : List Value) : FailsBy Fault.IsUnreported (listed items) := by
  induction items with
  | nil => exact failsBy_ok []
  | cons value rest ih =>
    unfold listed
    split
    · exact failsBy_error rfl
    split
    · exact failsBy_ok _
    next fault given => exact failsBy_error (ih fault given)

theorem failsBy_propertyNames (conventions : Naming) (members : Members) :
    FailsBy Fault.IsUnreported (propertyNames conventions members) := by
  have ofKeyword : FailsBy Fault.IsUnreported conventions.orderKeyword := by
    unfold Naming.orderKeyword
    split
    · exact failsBy_ok _
    split
    · exact failsBy_error rfl
    · exact failsBy_ok _
  have ofOrder : FailsBy Fault.IsUnreported (order conventions members) := by
    apply ofKeyword.bind
    intro keyword _
    split
    · exact failsBy_ok _
    split
    · exact failsBy_listed _
    · exact failsBy_ok _
  apply ofOrder.bind
  intro explicit _
  exact failsBy_ok _

theorem failsBy_fields_missing (naming : Setting Naming) (path : String) (members : Members)
    (names : List String) :
    FailsBy (Fault.MissesBy (Misses path (object members "properties")))
      (fields naming path members names) := by
  induction names with
  | nil => exact failsBy_ok []
  | cons name rest ih =>
    apply FailsBy.bind
    · unfold field
      apply FailsBy.bind
      · rintro _ fails keyword place rfl
        obtain ⟨isItems, lacks, isPlace⟩ := FieldType.failsBy_missing _ _ _ _ fails keyword place rfl
        -- a property that is not there counts as null, which is no array
        cases given : Entries.get? (object members "properties") name with
        | none =>
          rw [given, Option.getD_none, (alongItems_of_none rfl).2] at lacks
          cases lacks.1
        | some node =>
          rw [given, Option.getD_some] at lacks isPlace
          exact ⟨isItems, name, node, given, lacks, isPlace⟩
      · intro type _
        exact failsBy_ok _
    · intro first _
      apply ih.bind
      intro others _
      exact failsBy_ok _

end Node

/-- A model misses keywords only among its properties. -/
theorem Model.failsBy_missing (naming : Setting Naming) (name label : String) (members : Members)
    (description : Option String) :
    FailsBy (Fault.MissesBy (Node.Misses s!"#/{label}" (Node.object members "properties")))
      (ofNode naming name label members description) := by
  unfold ofNode
  refine FailsBy.bind (failsBy_unreported (failsBy_conventions _)) fun conventions _ => ?_
  refine FailsBy.bind (failsBy_unreported (FieldType.failsBy_className _ _)) fun className _ => ?_
  refine FailsBy.bind (failsBy_unreported (failsBy_conventions _)) fun others _ => ?_
  refine FailsBy.bind (failsBy_unreported (Node.failsBy_propertyNames _ _)) fun names _ => ?_
  refine (Node.failsBy_fields_missing _ _ _ _).bind fun fields _ => ?_
  exact failsBy_ok _

/-! ## Where properties stand -/

namespace Document

/-- What holds the properties of a model: an entry of the document itself, a schema that is wrapped in
one, a definition of a block, or the whole document, with what is said of it in paths. -/
inductive Holder where
  | entry (key : String)
  | wrapped (key : String)
  | definition (block name : String)
  | whole (label : String)
  deriving DecidableEq

namespace Holder

/-- Where a holder stands. -/
def location : Holder → List String
  | entry key => [key]
  | wrapped key => [key, "schema"]
  | definition block name => [block, "definitions", name]
  | whole _ => []

/-- What stands for a holder in paths. -/
def label : Holder → String
  | entry key | wrapped key => key
  | definition block name => block ++ "_" ++ name
  | whole label => label

end Holder

/-- Whether a holder is one of a document, with the table of its properties. A conditional schema shares
its table out between three models; another document is a holder as a whole if it holds none. -/
inductive Holds (config : Config) (document : Members) : Holder → Members → Prop
  | entry {key : String} {node : Members}
    (unconditional : Conditional.isConditional document = false)
    (isEntry : (key, .obj node) ∈ document) (unwrapped : Entries.has node "schema" = false) :
    Holds config document (.entry key) (Node.object node "properties")
  | wrapped {key : String} {node inner : Members}
    (unconditional : Conditional.isConditional document = false)
    (isEntry : (key, .obj node) ∈ document)
    (isWrapped : Entries.get? node "schema" = some (.obj inner)) :
    Holds config document (.wrapped key) (Node.object inner "properties")
  | definition {block name : String} {node definitions inner : Members}
    (unconditional : Conditional.isConditional document = false)
    (isEntry : (block, .obj node) ∈ document) (unwrapped : Entries.has node "schema" = false)
    (bare : Entries.has node "properties" = false)
    (isBlock : Entries.get? node "definitions" = some (.obj definitions))
    (isDefinition : (name, .obj inner) ∈ definitions) :
    Holds config document (.definition block name) (Node.object inner "properties")
  | single {conventions : Naming} (unconditional : Conditional.isConditional document = false)
    (noPlaces : places document = []) (isTyped : config.naming = .typed conventions) :
    Holds config document (.whole (Conditional.titleOr document conventions.rootName).display)
      (Node.object document "properties")
  | share {names : Conditional.Names} {label : String} {share : Members}
    (conditional : Conditional.isConditional document = true)
    (isNamed : Conditional.names config document = .ok names)
    (isShare : (label, share) ∈ [(names.base.display, (Conditional.shares document).1),
      (names.first, (Conditional.shares document).2.1),
      (names.second, (Conditional.shares document).2.2)]) :
    Holds config document (.whole label) (Node.object share "properties")

/-- What is missed in a document: the items of a property of one of its holders. -/
def Misses (config : Config) (document : Members) (keyword path : String) : Prop :=
  ∃ holder properties, Holds config document holder properties ∧
    Node.Misses s!"#/{holder.label}" properties keyword path

theorem failsBy_form {config : Config} {document : Members} {steps : List Step}
    (holds : ∀ raw node, (raw, node) ∈ steps.filterMap Step.formed? →
      ∃ holder : Holder, holder.label = raw ∧
        Holds config document holder (Node.object node "properties")) :
    FailsBy (Fault.MissesBy (Misses config document)) (form config.naming steps) := by
  induction steps with
  | nil => exact failsBy_ok []
  | cons step rest ih =>
    cases step with
    | pass remark => exact ih holds
    | form name node description =>
      have isFormed : Step.formed? (.form name node description) = some (name, node) := rfl
      rw [List.filterMap_cons_some isFormed] at holds
      apply FailsBy.bind
      · intro fault fails keyword path isFault
        obtain ⟨holder, rfl, isHolder⟩ := holds name node (List.mem_cons_self ..)
        exact ⟨holder, _, isHolder, Model.failsBy_missing _ _ _ _ _ fault fails keyword path isFault⟩
      · intro model _
        apply (ih fun raw node isLater => holds raw node (List.mem_cons_of_mem _ isLater)).bind
        intro models _
        exact failsBy_ok _

theorem exists_of_mem {node : Members} {key : String} {entry : String × Value}
    (isIn : entry ∈ Node.object node key) :
    ∃ members, Entries.get? node key = some (.obj members) ∧ Node.object node key = members := by
  unfold Node.object at isIn ⊢
  split at isIn
  next members held => exact ⟨members, held, rfl⟩
  next => cases isIn

theorem exists_of_get? {node : Members} {key inner : String} {value : Value}
    (held : Entries.get? (Node.object node key) inner = some value) :
    ∃ members, Entries.get? node key = some (.obj members) ∧ Node.object node key = members :=
  exists_of_mem (Entries.mem_of_get? held)

theorem holds_of_entryPlaces {config : Config} {document node found : Members} {key : String}
    {place : Place} (unconditional : Conditional.isConditional document = false)
    (isEntry : (key, .obj node) ∈ document) (isPlace : (place, found) ∈ entryPlaces key node) :
    ∃ holder : Holder, holder.label = place.raw ∧
      Holds config document holder (Node.object found "properties") := by
  unfold entryPlaces at isPlace
  split at isPlace
  next isWrapped =>
    split at isPlace
    next properties =>
      cases List.mem_singleton.mp isPlace
      obtain ⟨_, held⟩ := Option.isSome_iff_exists.mp properties
      obtain ⟨inner, isInner, same⟩ := exists_of_get? held
      rw [same]
      exact ⟨.wrapped key, rfl, .wrapped unconditional isEntry isInner⟩
    next => cases isPlace
  next unwrapped =>
    rw [Bool.not_eq_true] at unwrapped
    split at isPlace
    next =>
      cases List.mem_singleton.mp isPlace
      exact ⟨.entry key, rfl, .entry unconditional isEntry unwrapped⟩
    next bare =>
      rw [Bool.not_eq_true] at bare
      obtain ⟨⟨name, value⟩, isDefinition, isThis⟩ := List.mem_filterMap.mp isPlace
      cases value with
      | obj inner =>
        cases isThis
        obtain ⟨definitions, isBlock, same⟩ := exists_of_mem isDefinition
        rw [same] at isDefinition
        exact ⟨.definition key name, rfl,
          .definition unconditional isEntry unwrapped bare isBlock isDefinition⟩
      | _ => cases isThis

theorem holds_of_places {config : Config} {document found : Members} {place : Place}
    (unconditional : Conditional.isConditional document = false)
    (isPlace : (place, found) ∈ places document) :
    ∃ holder : Holder, holder.label = place.raw ∧
      Holds config document holder (Node.object found "properties") := by
  obtain ⟨⟨key, value⟩, isEntry, isHere⟩ := List.mem_flatMap.mp isPlace
  cases value with
  | obj node => exact holds_of_entryPlaces unconditional isEntry isHere
  | _ => cases isHere

section Split

variable {described : String → String → Prop}

theorem failsBy_discriminator (policy : Policy) (document : Members) :
    FailsBy (Fault.MissesBy described) (Conditional.discriminator policy document) := by
  unfold Conditional.discriminator
  split
  · exact failsBy_error nofun
  · exact failsBy_ok _
  · split
    · exact failsBy_ok _
    · exact failsBy_error nofun

theorem failsBy_firstValue (document : Members) (key : String) :
    FailsBy (Fault.MissesBy described) (Conditional.firstValue document key) := by
  unfold Conditional.firstValue
  dsimp only
  split
  · exact failsBy_ok _
  · exact failsBy_error nofun

theorem failsBy_nameText (title : Value) :
    FailsBy (Fault.MissesBy described) (Conditional.nameText title) := by
  unfold Conditional.nameText
  split
  · exact failsBy_ok _
  · split
    · exact failsBy_error nofun
    · exact failsBy_ok _

theorem failsBy_joined (front : String) (title : Value) :
    FailsBy (Fault.MissesBy described) (Conditional.joined front title) := by
  unfold Conditional.joined
  split
  · exact failsBy_ok _
  · exact failsBy_error nofun

theorem failsBy_cutLength (conventions : Naming) :
    FailsBy (Fault.MissesBy described) conventions.cutLength := by
  unfold Naming.cutLength
  split
  · exact failsBy_ok _
  · exact failsBy_ok _
  · exact failsBy_ok _
  · exact failsBy_error nofun

/-- No keyword is missed by forming the names of a split. -/
theorem failsBy_names (config : Config) (document : Members) :
    FailsBy (Fault.MissesBy described) (Conditional.names config document) := by
  have className (conventions : Naming) (raw : String) :
      FailsBy (Fault.MissesBy described) (conventions.className raw) :=
    failsBy_unreported (FieldType.failsBy_className conventions raw)
  refine (failsBy_discriminator _ _).bind fun key _ => ?_
  refine FailsBy.bind (failsBy_unreported (failsBy_conventions _)) fun conventions _ => ?_
  refine (failsBy_cutLength conventions).bind fun length _ => ?_
  refine (failsBy_nameText _).bind fun base _ => ?_
  refine (className _ _).bind fun baseClass _ => ?_
  refine (failsBy_joined _ _).bind fun first _ => ?_
  refine (className _ _).bind fun firstClass _ => ?_
  refine FailsBy.bind (failsBy_unreported (FieldType.failsBy_get _)) fun otherwise _ => ?_
  refine (failsBy_joined _ _).bind fun second _ => ?_
  refine (className _ _).bind fun secondClass _ => ?_
  refine (failsBy_firstValue _ _).bind fun value _ => ?_
  exact failsBy_ok _

end Split

section

variable {config : Config} {document : Members}

theorem failsBy_split (conditional : Conditional.isConditional document = true) :
    FailsBy (Fault.MissesBy (Misses config document)) (Conditional.split config document) := by
  refine (failsBy_names config document).bind fun names isNamed => ?_
  split
  · exact failsBy_ok _
  let shares := [(names.base.display, (Conditional.shares document).1),
    (names.first, (Conditional.shares document).2.1), (names.second, (Conditional.shares document).2.2)]
  have ofShare : ∀ name label share, (label, share) ∈ shares →
      FailsBy (Fault.MissesBy (Misses config document))
        (Model.ofNode config.naming name label share) := by
    intro name label share isShare fault fails keyword path isFault
    have misses := Model.failsBy_missing _ _ _ _ _ fault fails keyword path isFault
    exact ⟨.whole label, _, .share conditional isNamed isShare, misses⟩
  have isSecond : (names.first, (Conditional.shares document).2.1) ∈ shares :=
    List.mem_cons_of_mem _ (List.mem_cons_self ..)
  have isThird : (names.second, (Conditional.shares document).2.2) ∈ shares :=
    List.mem_cons_of_mem _ (List.mem_cons_of_mem _ (List.mem_singleton_self _))
  refine (failsBy_nameText _).bind fun base _ => ?_
  refine (ofShare _ _ _ (List.mem_cons_self ..)).bind fun baseModel _ => ?_
  refine (ofShare _ _ _ isSecond).bind fun firstModel _ => ?_
  refine (ofShare _ _ _ isThird).bind fun secondModel _ => ?_
  exact failsBy_ok _

section

variable (unconditional : Conditional.isConditional document = false)
include unconditional

theorem failsBy_root (noPlaces : places document = []) :
    FailsBy (Fault.MissesBy (Misses config document)) (root config.naming document) := by
  refine FailsBy.bind (failsBy_unreported (failsBy_conventions _)) fun conventions given => ?_
  have isTyped := Conditional.conventions_eq_ok given
  refine (failsBy_nameText _).bind fun name _ => ?_
  intro fault fails keyword path isFault
  have misses := Model.failsBy_missing _ _ _ _ _ fault fails keyword path isFault
  exact ⟨_, _, .single unconditional noPlaces isTyped, misses⟩

theorem failsBy_container :
    FailsBy (Fault.MissesBy (Misses config document)) (models config document) := by
  rw [models, if_neg (by rw [unconditional]; exact Bool.false_ne_true)]
  have ofSteps : FailsBy (Fault.MissesBy (Misses config document))
      (form config.naming (steps document)) := by
    apply failsBy_form
    intro raw node isFormed
    rw [formed_steps] at isFormed
    obtain ⟨⟨place, found⟩, isPlace, same⟩ := List.mem_map.mp isFormed
    cases same
    exact holds_of_places unconditional isPlace
  refine ofSteps.bind fun models formed => ?_
  split
  next isRoot =>
    -- a document with places has a model, so this one has none
    have noPlaces : places document = [] := by
      by_contra held
      rw [Document.isRoot, List.isEmpty_eq_false_iff.mpr (ne_nil_of_form held formed)] at isRoot
      cases isRoot
    refine (failsBy_root unconditional noPlaces).bind fun model _ => ?_
    exact failsBy_ok _
  next => exact failsBy_ok _

end

/-- Parsing misses keywords only among the properties of a holder. -/
theorem failsBy_ofDocument :
    FailsBy (Fault.MissesBy (Misses config document)) (Schema.ofDocument config (.obj document)) := by
  have ofModels : FailsBy (Fault.MissesBy (Misses config document)) (models config document) := by
    cases given : Conditional.isConditional document with
    | true =>
      rw [models, if_pos given]
      exact failsBy_split given
    | false => exact failsBy_container given
  refine ofModels.bind fun models _ => ?_
  exact failsBy_ok _

end

/-! ## Where paths lead -/

/-- Whether there is an array without items at a place of a document. -/
def LacksAt (document : Members) (place : List String) : Prop :=
  ∃ node, (Value.obj document).follow place = some node ∧ Node.LacksItems node

/-- Whether the properties of a table are among those of an object that stands at a place, all of whose
keys are plain. -/
structure IsTableAt (document properties : Members) (location : List String) (node : Members) : Prop where
  stands : (Value.obj document).follow location = some (.obj node)
  plain : Value.hasPlainKeys (.obj node) = true
  held : ∀ property found, Entries.get? properties property = some found →
    Entries.get? (Node.object node "properties") property = some found

theorem IsTableAt.follow {document properties node : Members} {location : List String}
    (isTable : IsTableAt document properties location node) {property : String} {found : Value}
    (held : Entries.get? properties property = some found) :
    (Value.obj document).follow (location ++ ["properties", property]) = some found ∧
      '/' ∉ property.toList := by
  have heldThere := isTable.held property found held
  obtain ⟨members, isObject, same⟩ := exists_of_get? heldThere
  rw [same] at heldThere
  have ofTable := Value.member_of_plain isTable.plain (Entries.mem_of_get? isObject)
  have ofProperty := Value.member_of_plain ofTable.2.2 (Entries.mem_of_get? heldThere)
  refine ⟨?_, ofProperty.2.1⟩
  rw [Value.follow_append, isTable.stands, Option.bind_some, Value.follow_cons isObject,
    Value.follow_cons heldThere]
  rfl

/-- A share has properties of the document. -/
theorem exists_keep_of_share (document : Members) {share : Members}
    (isShare : share ∈ [(Conditional.shares document).1, (Conditional.shares document).2.1,
      (Conditional.shares document).2.2]) :
    ∃ keep : String → Bool, Node.object share "properties" =
      (Node.object document "properties").filter fun entry => keep entry.1 := by
  let first := Node.required (Node.object document "then")
  let second := Node.required (Node.object document "else")
  simp only [List.mem_cons, List.not_mem_nil, or_false] at isShare
  rcases isShare with rfl | rfl | rfl
  · refine ⟨fun name => !second.contains name && !first.contains name, ?_⟩
    rw [← List.filter_filter, Node.object, Conditional.shares]
    dsimp only
    rw [Entries.get?_put, if_neg (by decide), Entries.get?_put, if_pos rfl]
    rfl
  · exact ⟨fun name => first.contains name, rfl⟩
  · refine ⟨fun name => second.contains name && !first.contains name, ?_⟩
    rw [← List.filter_filter]
    rfl

/-- The properties of a holder are those of an object where it stands. -/
theorem exists_isTableAt {config : Config} {document properties : Members} {holder : Holder}
    (plain : Value.hasPlainKeys (.obj document) = true)
    (holds : Holds config document holder properties) :
    ∃ node, IsTableAt document properties holder.location node := by
  cases holds with
  | @entry key node unconditional isEntry unwrapped =>
    obtain ⟨isHere, _, plainNode⟩ := Value.member_of_plain plain isEntry
    exact ⟨node, Value.follow_cons isHere [], plainNode, fun _ _ => id⟩
  | @wrapped key node inner unconditional isEntry isWrapped =>
    obtain ⟨isHere, _, plainNode⟩ := Value.member_of_plain plain isEntry
    have plainInner := (Value.member_of_plain plainNode (Entries.mem_of_get? isWrapped)).2.2
    refine ⟨inner, ?_, plainInner, fun _ _ => id⟩
    exact (Value.follow_cons isHere _).trans (Value.follow_cons isWrapped [])
  | @definition block name node definitions inner _ isEntry _ _ isBlock isDefinition =>
    obtain ⟨isHere, _, plainNode⟩ := Value.member_of_plain plain isEntry
    have plainBlock := (Value.member_of_plain plainNode (Entries.mem_of_get? isBlock)).2.2
    obtain ⟨isThere, _, plainInner⟩ := Value.member_of_plain plainBlock isDefinition
    refine ⟨inner, ?_, plainInner, fun _ _ => id⟩
    exact (Value.follow_cons isHere _).trans
      ((Value.follow_cons isBlock _).trans (Value.follow_cons isThere []))
  | single unconditional noPlaces isTyped => exact ⟨document, rfl, plain, fun _ _ => id⟩
  | @share names label share conditional isNamed isShare =>
    have isOne : share ∈ List.map Prod.snd _ := List.mem_map_of_mem isShare
    obtain ⟨keep, same⟩ := exists_keep_of_share document isOne
    refine ⟨document, rfl, plain, fun property found held => ?_⟩
    rw [same, Entries.get?_filter] at held
    split at held
    · exact held
    · cases held

/-! ## Pointers -/

theorem pointer_append {name : String} (noSlash : '/' ∉ name.toList) (path : String) :
    pointer (path ++ "/" ++ name) = pointer path ++ [name] := by
  have spelled : (path ++ "/" ++ name).toList = path.toList ++ '/' :: name.toList := by
    simp [String.toList_append]
  have some_ : 1 ≤ (Text.pieces '/' path.toList).length :=
    List.length_pos_of_ne_nil (Text.pieces_ne_nil '/' path.toList)
  rw [pointer, spelled, Text.pieces_append, Text.pieces_of_not_mem noSlash,
    List.drop_append_of_le_length some_, List.map_append, List.map_singleton, String.ofList_toList]
  rfl

theorem pointer_label (label : String) :
    pointer ("#/" ++ label) = (Text.pieces '/' label.toList).map String.ofList := by
  have spelled : ("#/" ++ label).toList = ['#'] ++ '/' :: label.toList := by
    simp [String.toList_append]
  rw [pointer, spelled, Text.pieces_append, Text.pieces_of_not_mem (by decide)]
  rfl

theorem pointer_below (path : String) (steps : Nat) :
    pointer (Node.below path steps) = pointer path ++ List.replicate steps "items" := by
  induction steps with
  | zero => rw [List.replicate_zero, List.append_nil, Node.below]
  | succ steps ih =>
    have isStep : Node.below path (steps + 1) = Node.below path steps ++ "/" ++ "items" := by
      rw [Node.below, String.append_assoc]
      rfl
    rw [isStep, pointer_append (by decide), ih, List.append_assoc, List.replicate_succ']

/-- A path leads behind its label to the property and along items. -/
theorem pointer_property {property : String} (noSlash : '/' ∉ property.toList) (label : String)
    (steps : Nat) : pointer (Node.below s!"#/{label}/properties/{property}" steps) =
      (Text.pieces '/' label.toList).map String.ofList ++
        "properties" :: property :: List.replicate steps "items" := by
  have spelled : s!"#/{label}/properties/{property}" =
      "#/" ++ label ++ "/" ++ "properties" ++ "/" ++ property := by
    have parted : "/properties/" = "/" ++ "properties" ++ "/" := rfl
    show "#/" ++ label ++ "/properties/" ++ property = _
    rw [parted, ← String.append_assoc, ← String.append_assoc]
  rw [pointer_below, spelled, pointer_append noSlash, pointer_append (by decide), pointer_label]
  simp

/-- The label of a holder leads to it as a pointer only if it is an entry itself. -/
theorem label_leads_iff {config : Config} {document properties : Members} {holder : Holder}
    (plain : Value.hasPlainKeys (.obj document) = true)
    (holds : Holds config document holder properties) :
    (Text.pieces '/' holder.label.toList).map String.ofList = holder.location ↔
      ∃ key, holder = .entry key := by
  cases holds with
  | @entry key node unconditional isEntry unwrapped =>
    obtain ⟨_, noSlash, _⟩ := Value.member_of_plain plain isEntry
    refine iff_of_true ?_ ⟨key, rfl⟩
    rw [Holder.label, Text.pieces_of_not_mem noSlash, List.map_singleton, String.ofList_toList,
      Holder.location]
  | @wrapped key node inner unconditional isEntry isWrapped =>
    obtain ⟨_, noSlash, _⟩ := Value.member_of_plain plain isEntry
    refine iff_of_false ?_ nofun
    rw [Holder.label, Text.pieces_of_not_mem noSlash]
    simp [Holder.location]
  | @definition block name node definitions inner _ isEntry _ _ isBlock isDefinition =>
    obtain ⟨isHere, noSlash, plainNode⟩ := Value.member_of_plain plain isEntry
    have plainBlock := (Value.member_of_plain plainNode (Entries.mem_of_get? isBlock)).2.2
    obtain ⟨_, noSlashInName, _⟩ := Value.member_of_plain plainBlock isDefinition
    have noneInBoth : '/' ∉ (block ++ "_" ++ name).toList := by
      simp [String.toList_append, noSlash, noSlashInName]
    refine iff_of_false ?_ nofun
    rw [Holder.label, Text.pieces_of_not_mem noneInBoth]
    simp [Holder.location]
  | single unconditional noPlaces isTyped =>
    exact iff_of_false (fun same => Text.pieces_ne_nil _ _ (List.map_eq_nil_iff.mp same)) nofun
  | share conditional isNamed isShare =>
    exact iff_of_false (fun same => Text.pieces_ne_nil _ _ (List.map_eq_nil_iff.mp same)) nofun

/-- A keyword that is missed is that of the items of an array, which is reached from a property of some
holder along items. The path has the label of the holder, the property and the items in it, so it leads
to the array exactly if the holder is an entry of the document itself. -/
theorem missing_path_leads_iff {config : Config} {document : Members} {keyword path : String}
    (plain : Value.hasPlainKeys (.obj document) = true)
    (failed : Schema.ofDocument config (.obj document) = .error (.missingKeyword keyword path)) :
    keyword = "items" ∧ ∃ holder properties property steps,
      Holds config document holder properties ∧
      path = Node.below s!"#/{holder.label}/properties/{property}" steps ∧
      LacksAt document (holder.location ++ "properties" :: property :: List.replicate steps "items") ∧
      (pointer path = holder.location ++ "properties" :: property :: List.replicate steps "items" ↔
        ∃ key, holder = .entry key) := by
  obtain ⟨holder, properties, holds, isItems, property, node, held, lacks, rfl⟩ :=
    failsBy_ofDocument _ failed keyword path rfl
  obtain ⟨found, isTable⟩ := exists_isTableAt plain holds
  obtain ⟨stands, noSlash⟩ := isTable.follow held
  refine ⟨isItems, holder, properties, property, Node.depth node, holds, rfl, ?_, ?_⟩
  · refine ⟨Node.last node, ?_, lacks⟩
    have parted : holder.location ++ "properties" :: property :: List.replicate (Node.depth node) "items" =
        holder.location ++ ["properties", property] ++ List.replicate (Node.depth node) "items" := by
      rw [List.append_assoc]
      rfl
    rw [parted, Value.follow_append, stands, Option.bind_some, Node.follow_items]
  · rw [← label_leads_iff plain holds]
    have isPointer := pointer_property noSlash holder.label (Node.depth node)
    constructor
    · intro same
      exact List.append_cancel_right (isPointer.symm.trans same)
    · intro same
      exact isPointer.trans (congrArg (· ++ _) same)

/-- A table with an array that lacks items. -/
def tagsTable : Value := .obj [("properties", .obj [("tags", .obj [("type", .str "array")])])]

/-- Where an entry has such a table, the path leads to the array. -/
theorem missing_path_leads_task :
    Value.hasPlainKeys (.obj [("task", tagsTable)]) = true ∧
    Schema.ofDocument {} (.obj [("task", tagsTable)]) =
      .error (.missingKeyword "items" "#/task/properties/tags") ∧
    pointer "#/task/properties/tags" = ["task", "properties", "tags"] ∧
    LacksAt [("task", tagsTable)] (pointer "#/task/properties/tags") := by
  have plain : Value.hasPlainKeys (.obj [("task", tagsTable)]) = true := by decide
  have failed : Schema.ofDocument {} (.obj [("task", tagsTable)]) =
      .error (.missingKeyword "items" "#/task/properties/tags") := by decide +kernel
  have isPointer : pointer "#/task/properties/tags" = ["task", "properties", "tags"] := by
    decide +kernel
  obtain ⟨_, holder, properties, property, steps, holds, _, lacks, leads⟩ :=
    missing_path_leads_iff plain failed
  have isEntry : ∃ key, holder = .entry key := by
    cases holds with
    | entry => exact ⟨_, rfl⟩
    | wrapped unconditional isEntry isWrapped =>
      cases List.mem_singleton.mp isEntry
      cases isWrapped
    | definition unconditional isEntry unwrapped bare =>
      cases List.mem_singleton.mp isEntry
      cases bare
    | single unconditional noPlaces => cases noPlaces
    | share conditional => cases conditional
  rw [← leads.mpr isEntry] at lacks
  exact ⟨plain, failed, isPointer, lacks⟩

/-- Where the whole document is the table, or a schema that an entry wraps, the path leads nowhere. -/
theorem missing_path_misses_root :
    Value.hasPlainKeys tagsTable = true ∧
    Schema.ofDocument {} tagsTable = .error (.missingKeyword "items" "#/Root/properties/tags") ∧
    tagsTable.follow (pointer "#/Root/properties/tags") = none ∧
    Schema.ofDocument {} (.obj [("task", .obj [("schema", tagsTable)])]) =
      .error (.missingKeyword "items" "#/task/properties/tags") ∧
    (Value.obj [("task", .obj [("schema", tagsTable)])]).follow (pointer "#/task/properties/tags") =
      none := by
  refine ⟨by decide, by decide +kernel, by decide +kernel, by decide +kernel, by decide +kernel⟩

end Document

end SchemaCodegen
