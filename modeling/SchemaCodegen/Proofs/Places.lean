import SchemaCodegen.Proofs.Sharing

/-!
# Where the models of a document stand

A model of a document that is no conditional schema stands under a key of its own, or it is one of
the definitions of a block. A document with such places has one model for each, in order. Only a
document without any is read as a single schema.
-/

namespace SchemaCodegen

open Json (Value Members)

namespace Document

/-- Where a model stands. -/
inductive Place where
  | entry (key : String)
  | definition (block name : String)
  deriving DecidableEq, Repr

namespace Place

/-- The text that the name of the model at a place is formed from. -/
def raw : Place → String
  | entry key => key
  | definition block name => block ++ "_" ++ name

/-- The reference that points at a place. -/
def reference : Place → String
  | entry key => "#/" ++ key
  | definition block name => "#/" ++ block ++ "/definitions/" ++ name

end Place

/-- The definitions of a block with their nodes. What is no object is none. -/
def definitionPlaces (block : String) (definitions : Members) : List (Place × Members) :=
  definitions.filterMap fun (name, value) =>
    match value with
    | .obj node => some (.definition block name, node)
    | _ => none

/-- The places in an entry with their nodes: a wrapped schema with properties, the entry itself if it
has properties, or else its definitions. -/
def entryPlaces (key : String) (node : Members) : List (Place × Members) :=
  if Entries.has node "schema" then
    if Entries.has (Node.object node "schema") "properties" then
      [(.entry key, Node.object node "schema")]
    else []
  else if Entries.has node "properties" then [(.entry key, node)]
  else definitionPlaces key (Node.object node "definitions")

/-- The places in a document with their nodes. -/
def places (document : Members) : List (Place × Members) :=
  document.flatMap fun (key, value) =>
    match value with
    | .obj node => entryPlaces key node
    | _ => []

/-! ## Steps and places -/

/-- The raw name and the node of the model that a step forms. -/
def Step.formed? : Step → Option (String × Members)
  | .form name node _ => some (name, node)
  | .pass _ => none

theorem formed_definitionSteps (block : String) (definitions : Members) :
    (definitionSteps block definitions).filterMap Step.formed? =
      (definitionPlaces block definitions).map fun place => (place.1.raw, place.2) := by
  rw [definitionSteps, definitionPlaces, List.filterMap_map, List.map_filterMap]
  apply List.filterMap_congr
  rintro ⟨name, value⟩ _
  cases value <;> rfl

theorem formed_entrySteps (key : String) (node : Members) :
    (entrySteps key node).filterMap Step.formed? =
      (entryPlaces key node).map fun place => (place.1.raw, place.2) := by
  unfold entrySteps entryPlaces
  cases wrapped : Entries.get? node "schema" with
  | some schema =>
    have isWrapped : Entries.has node "schema" = true := by rw [Entries.has, wrapped]; rfl
    rw [if_pos isWrapped, Node.object, wrapped]
    cases schema with
    | obj inner => cases properties : Entries.has inner "properties" <;> simp [Step.formed?, Place.raw, properties]
    | _ => rfl
  | none =>
    have notWrapped : ¬Entries.has node "schema" = true := by
      rw [Entries.has, wrapped]
      exact Bool.false_ne_true
    rw [if_neg notWrapped]
    cases properties : Entries.has node "properties" with
    | true => rfl
    | false =>
      rw [if_neg Bool.false_ne_true, if_neg Bool.false_ne_true, Node.object]
      cases Entries.get? node "definitions" with
      | none => rfl
      | some found =>
        cases found with
        | obj definitions => exact formed_definitionSteps key definitions
        | _ => rfl

/-- The steps of a document form the models at its places. -/
theorem formed_steps (document : Members) :
    (steps document).filterMap Step.formed? =
      (places document).map fun place => (place.1.raw, place.2) := by
  rw [steps, places, List.filterMap_flatMap, List.map_flatMap]
  apply List.flatMap_congr
  rintro ⟨key, value⟩ _
  cases value with
  | obj node => exact formed_entrySteps key node
  | _ => rfl

/-- Steps that are all carried out give a model for each that forms one, in order. -/
theorem form_eq_ok {naming : Setting Naming} {steps : List Step} {models : List Model}
    (formed : form naming steps = .ok models) :
    List.Forall₂ (fun step model => ∃ description,
        Model.ofNode naming step.1 step.1 step.2 description = .ok model)
      (steps.filterMap Step.formed?) models := by
  induction steps generalizing models with
  | nil =>
    cases formed
    exact .nil
  | cons step rest ih =>
    cases step with
    | pass remark => exact ih formed
    | form name node description =>
      obtain ⟨model, ofNode, formed⟩ := Outcome.bind_eq_ok.mp formed
      obtain ⟨more, ofRest, same⟩ := Outcome.bind_eq_ok.mp formed
      cases same
      exact .cons ⟨description, ofNode⟩ (ih ofRest)

theorem form_of_none {naming : Setting Naming} {steps : List Step}
    (none_ : steps.filterMap Step.formed? = []) : form naming steps = .ok [] := by
  induction steps with
  | nil => rfl
  | cons step rest ih =>
    cases step with
    | pass remark => exact ih none_
    | form name node description => cases none_

theorem form_of_no_places {naming : Setting Naming} {document : Members}
    (none_ : places document = []) : form naming (steps document) = .ok [] := by
  apply form_of_none
  rw [formed_steps, none_]
  rfl

theorem ne_nil_of_form {naming : Setting Naming} {document : Members} {models : List Model}
    (held : places document ≠ []) (formed : form naming (steps document) = .ok models) :
    models ≠ [] := by
  have each := form_eq_ok formed
  rw [formed_steps, List.forall₂_map_left_iff] at each
  rintro rfl
  exact held (List.forall₂_nil_right_iff.mp each)

/-! ## Containers and single schemas -/

/-- Models are read under conventions that are an object: they have a class name and their fields in
the order that these say. -/
theorem typed_of_ofNode {naming : Setting Naming} {name label : String} {members : Members}
    {description : Option String} {model : Model}
    (formed : Model.ofNode naming name label members description = .ok model) :
    ∃ conventions, naming = .typed conventions ∧ conventions.className name = .ok model.name ∧
      Node.propertyNames conventions members = .ok model.fieldNames := by
  obtain ⟨conventions, isNamer, formed⟩ := Outcome.bind_eq_ok.mp formed
  obtain ⟨className, named, formed⟩ := Outcome.bind_eq_ok.mp formed
  obtain ⟨others, isConventions, formed⟩ := Outcome.bind_eq_ok.mp formed
  obtain ⟨names, ordered, formed⟩ := Outcome.bind_eq_ok.mp formed
  obtain ⟨fields, ofNames, same⟩ := Outcome.bind_eq_ok.mp formed
  cases same
  have isTyped := Conditional.conventions_eq_ok isConventions
  rw [isTyped] at isNamer
  cases isNamer
  refine ⟨conventions, isTyped, named, ?_⟩
  rw [Model.fieldNames, Node.map_name_of_fields ofNames]
  exact ordered

/-- A model as it is read at a place. -/
def Place.Gives (naming : Setting Naming) (place : Place × Members) (model : Model) : Prop :=
  ∃ description, Model.ofNode naming place.1.raw place.1.raw place.2 description = .ok model

section

variable {config : Config} {document : Members}
  (unconditional : Conditional.isConditional document = false)
include unconditional

/-- A document with places for models has one model for each. -/
theorem models_of_places (held : places document ≠ []) {schema : Schema}
    (parsed : Schema.ofDocument config (.obj document) = .ok schema) :
    List.Forall₂ (Place.Gives config.naming) (places document) schema.models := by
  obtain ⟨given, formed, same⟩ := Outcome.bind_eq_ok.mp parsed
  cases same
  rw [models, if_neg (by rw [unconditional]; exact Bool.false_ne_true)] at formed
  obtain ⟨found, ofSteps, formed⟩ := Outcome.bind_eq_ok.mp formed
  have each := form_eq_ok ofSteps
  rw [formed_steps, List.forall₂_map_left_iff] at each
  rw [isRoot, List.isEmpty_eq_false_iff.mpr (ne_nil_of_form held ofSteps)] at formed
  cases formed
  exact each

/-- A document without places for models is read as a single schema if it has properties. -/
theorem ofDocument_of_no_places (none_ : places document = [])
    (properties : Entries.has document "properties" = true) :
    Schema.ofDocument config (.obj document) = (root config.naming document).map fun model =>
      { models := [model], version := Node.text? document "$schema", metadata := metadata document } := by
  have formed : models config document = (root config.naming document).map ([·]) := by
    rw [models, if_neg (by rw [unconditional]; exact Bool.false_ne_true), form_of_no_places none_,
      Outcome.ok_bind, isRoot, properties]
    cases root config.naming document <;> rfl
  rw [Schema.ofDocument, formed]
  cases root config.naming document <;> rfl

end

end Document

end SchemaCodegen
