import SchemaCodegen.Proofs.Outcome
import SchemaCodegen.Schema.References
import SchemaCodegen.Schema.Rename

/-!
# Renaming is one substitution

The names that models are given replace the old ones everywhere at once. A new name has the
replacement of the reserved ending, so it is never renamed itself: nothing that is renamed is left,
and every reference that points at no model did so before.
-/

namespace SchemaCodegen

/-! ## New names -/

namespace Naming

/-- The new name of a model, if it needs one. -/
def newName? (naming : Naming) (name : String) : Option String :=
  match naming.needsNewEnding name, naming.withNewEnding name with
  | .ok true, .ok new => some new
  | _, _ => none

theorem get_eq_ok {α : Type} {setting : Setting α} {value : α} (given : setting.get = .ok value) :
    setting = .typed value := by
  cases setting with
  | typed other =>
    cases given
    rfl
  | untyped _ => cases given

section

variable {conventions : Naming} {ending name : String}

theorem withNewEnding_of_isEndOf {replacement : String} (reserved : conventions.ending = .typed ending)
    (replaced : conventions.replacement = .typed replacement)
    (isEnd : Ending.isEndOf ending name = true) :
    conventions.withNewEnding name = .ok (Ending.replaced ending replacement name) := by
  simp only [withNewEnding, reserved, replaced, isEnd, Setting.get_typed, Outcome.ok_bind, if_true]
  rfl

theorem withNewEnding_of_not_isEndOf (reserved : conventions.ending = .typed ending)
    (noEnd : Ending.isEndOf ending name = false) : conventions.withNewEnding name = .ok name := by
  simp only [withNewEnding, reserved, noEnd, Setting.get_typed, Outcome.ok_bind, Bool.false_eq_true,
    if_false]
  rfl

/-- Names are formed under a reserved ending that is a text. What replaces it must be one as well for
the names that have it. -/
theorem withNewEnding_eq_ok {formed : String} (isFormed : conventions.withNewEnding name = .ok formed) :
    ∃ ending, conventions.ending = .typed ending ∧
      (Ending.isEndOf ending name = true → ∃ replacement,
        conventions.replacement = .typed replacement ∧
          formed = Ending.replaced ending replacement name) ∧
      (Ending.isEndOf ending name = false → formed = name) := by
  obtain ⟨ending, reserved, isFormed⟩ := Outcome.bind_eq_ok.mp isFormed
  refine ⟨ending, get_eq_ok reserved, ?_, ?_⟩
  · intro isEnd
    rw [if_pos isEnd] at isFormed
    obtain ⟨replacement, replaced, same⟩ := Outcome.bind_eq_ok.mp isFormed
    exact ⟨replacement, get_eq_ok replaced, (Except.ok.inj same).symm⟩
  · intro noEnd
    simp only [noEnd, Bool.false_eq_true, if_false] at isFormed
    exact (Except.ok.inj isFormed).symm

end

/-- A name with its ending replaced ends with the replacement. -/
theorem isEndOf_replaced (ending replacement name : String) :
    Ending.isEndOf replacement (Ending.replaced ending replacement name) = true := by
  rw [Ending.isEndOf_iff, Ending.replaced, String.toList_ofList]
  exact List.suffix_append ..

theorem needsNewEnding_of_typed {naming : Naming} {ending replacement : String}
    (isEnding : naming.ending = .typed ending) (isReplacement : naming.replacement = .typed replacement)
    (name : String) :
    naming.needsNewEnding name =
      .ok (Ending.isEndOf ending name && !Ending.isEndOf replacement name) := by
  simp only [needsNewEnding, isEnding, isReplacement, Setting.get, Bind.bind, Except.bind,
    Pure.pure, Except.pure]
  cases Ending.isEndOf ending name <;> rfl

/-- A model is renamed only by conventions that are texts, and from a name that has the reserved
ending and not its replacement. -/
theorem newName?_eq_some {naming : Naming} {name new : String}
    (renamed : naming.newName? name = some new) :
    ∃ ending replacement, naming.ending = .typed ending ∧ naming.replacement = .typed replacement ∧
      new = Ending.replaced ending replacement name := by
  unfold newName? at renamed
  split at renamed
  next needs given =>
    cases renamed
    obtain ⟨ending, ofEnding, needs⟩ := Outcome.bind_eq_ok.mp needs
    obtain ⟨same, sameEnding, given⟩ := Outcome.bind_eq_ok.mp given
    rw [ofEnding] at sameEnding
    cases sameEnding
    split at needs
    next isEnd =>
      rw [if_pos isEnd] at given
      obtain ⟨replacement, ofReplacement, given⟩ := Outcome.bind_eq_ok.mp given
      cases given
      exact ⟨ending, replacement, get_eq_ok ofEnding, get_eq_ok ofReplacement, rfl⟩
    next => cases needs
  next => cases renamed

/-- A new name needs no other. -/
theorem newName?_new {naming : Naming} {name new : String}
    (renamed : naming.newName? name = some new) : naming.newName? new = none := by
  obtain ⟨ending, replacement, isEnding, isReplacement, rfl⟩ := newName?_eq_some renamed
  rw [newName?, needsNewEnding_of_typed isEnding isReplacement, isEndOf_replaced, Bool.not_true,
    Bool.and_false]

/-- Whether it can be told that a model needs a new name decides whether it gets one. -/
theorem newName?_of_needs {naming : Naming} {name : String}
    (needs : naming.needsNewEnding name = .ok true) :
    ∃ new, naming.withNewEnding name = .ok new ∧ naming.newName? name = some new := by
  obtain ⟨ending, ofEnding, rest⟩ := Outcome.bind_eq_ok.mp needs
  split at rest
  next isEnd =>
    obtain ⟨replacement, ofReplacement, _⟩ := Outcome.bind_eq_ok.mp rest
    have given : naming.withNewEnding name = .ok (Ending.replaced ending replacement name) := by
      refine Outcome.bind_eq_ok.mpr ⟨ending, ofEnding, ?_⟩
      rw [if_pos isEnd]
      exact Outcome.bind_eq_ok.mpr ⟨replacement, ofReplacement, rfl⟩
    exact ⟨_, given, by rw [newName?, needs, given]⟩
  next => cases rest

theorem newName?_of_needs_not {naming : Naming} {name : String}
    (needs : naming.needsNewEnding name = .ok false) : naming.newName? name = none := by
  rw [newName?, needs]

end Naming

namespace Renaming

/-- The new names are those of the models that need one, each at its old name. -/
theorem get?_ofModels {naming : Naming} {models : List Model} {newNames : Renaming}
    (formed : ofModels naming models = .ok newNames) (name : String) :
    newNames.get? name =
      if (models.map (·.name)).contains name then naming.newName? name else none := by
  induction models generalizing newNames with
  | nil =>
    cases formed
    rfl
  | cons model rest ih =>
    obtain ⟨restNames, ofRest, formed⟩ := Outcome.bind_eq_ok.mp formed
    obtain ⟨needs, ofModel, formed⟩ := Outcome.bind_eq_ok.mp formed
    have later := ih ofRest
    rw [List.map_cons, List.contains_cons]
    cases needs with
    | false =>
      cases formed
      rw [later]
      by_cases same : name = model.name
      · subst same
        simp [Naming.newName?_of_needs_not ofModel]
      · simp [same]
    | true =>
      obtain ⟨new, given, formed⟩ := Outcome.bind_eq_ok.mp formed
      obtain ⟨_, sameGiven, renamed⟩ := Naming.newName?_of_needs ofModel
      rw [given] at sameGiven
      cases sameGiven
      cases formed
      rw [Entries.get?_cons]
      by_cases same : name = model.name
      · subst same
        simp [renamed]
      · rw [if_neg (Ne.symm same)]
        have kept := Entries.get?_filter restNames (fun key => key ≠ model.name) name
        rw [if_pos (by simp [same]), later] at kept
        simpa [same] using kept

/-- New names can be formed exactly if it can be told of each model whether it needs one. -/
theorem exists_ofModels {naming : Naming} {models : List Model} :
    (∃ newNames, ofModels naming models = .ok newNames) ↔
      ∀ model ∈ models, ∃ needs, naming.needsNewEnding model.name = .ok needs := by
  induction models with
  | nil => exact ⟨nofun, fun _ => ⟨[], rfl⟩⟩
  | cons model rest ih =>
    rw [List.forall_mem_cons, ← ih, ofModels]
    simp only [Outcome.exists_bind]
    constructor
    · rintro ⟨restNames, ofRest, needs, ofModel, _⟩
      exact ⟨⟨needs, ofModel⟩, ⟨restNames, ofRest⟩⟩
    · rintro ⟨⟨needs, ofModel⟩, ⟨restNames, ofRest⟩⟩
      refine ⟨restNames, ofRest, needs, ofModel, ?_⟩
      cases needs with
      | false => exact ⟨restNames, rfl⟩
      | true =>
        obtain ⟨new, given, _⟩ := Naming.newName?_of_needs ofModel
        rw [given]
        exact ⟨_, rfl⟩

end Renaming

/-! ## Names in a model -/

namespace FieldType

theorem innermost_rename (new : String → String) (type : FieldType) :
    (type.rename new).innermost = type.innermost.map new := by
  induction type with
  | plain kind target => cases kind <;> rfl
  | nested kind target item ih => cases kind <;> first | exact ih | rfl

end FieldType

namespace Model

/-- Whether a name stands in a model: as its own, as that of its parent or of a union case, or as the
target of a reference. -/
inductive Mentions (model : Model) : String → Prop where
  | name : model.Mentions model.name
  | parent {name : String} : model.parent = some name → model.Mentions name
  | unionCase {cases : Entries String} {case : String × String} :
      model.unionCases = some cases → case ∈ cases → model.Mentions case.2
  | reference {field : Field} {name : String} :
      field ∈ model.allFields → field.type.innermost = some name → model.Mentions name

theorem allFields_rename (new : String → String) (model : Model) :
    (model.rename new).allFields = model.allFields.map (·.rename new) := by
  unfold allFields arms rename
  cases model.variants with
  | none => simp
  | some variants => simp [List.flatMap_map, List.map_flatMap, Variant.rename]

/-- What stands in a renamed model was renamed. -/
theorem mentions_rename {new : String → String} {model : Model} {name : String}
    (mentions : (model.rename new).Mentions name) : ∃ old, new old = name := by
  cases mentions with
  | name => exact ⟨model.name, rfl⟩
  | parent isParent =>
    obtain ⟨old, _, renamed⟩ := Option.map_eq_some_iff.mp isParent
    exact ⟨old, renamed⟩
  | unionCase isCases isCase =>
    obtain ⟨old, _, rfl⟩ := Option.map_eq_some_iff.mp isCases
    obtain ⟨case, _, rfl⟩ := List.mem_map.mp isCase
    exact ⟨case.2, rfl⟩
  | reference isField isTarget =>
    rw [allFields_rename] at isField
    obtain ⟨field, _, rfl⟩ := List.mem_map.mp isField
    rw [Field.rename, FieldType.innermost_rename] at isTarget
    obtain ⟨old, _, renamed⟩ := Option.map_eq_some_iff.mp isTarget
    exact ⟨old, renamed⟩

end Model

/-! ## References of a schema -/

/-- A reference with the model and the target renamed. -/
def Reference.rename (new : String → String) (reference : Reference) : Reference where
  model := new reference.model
  field := reference.field
  target := new reference.target

namespace Schema

/-- The references of a field that point at no model. -/
def unresolvedOf (schema : Schema) (model : Model) (field : Field) : List Reference :=
  (field.type.references.map fun target => ⟨model.name, field.name, target⟩).filter
    fun r => !schema.declares r.target

/-- The references at a place that point at no model: those of the `j`-th field of the `i`-th
model. -/
def unresolvedAt (schema : Schema) (i j : Nat) : List Reference :=
  match schema.models[i]? with
  | none => []
  | some model => (model.allFields[j]?.map (schema.unresolvedOf model)).getD []

/-- A field has one target, which may be empty or declared. -/
theorem unresolvedOf_eq (schema : Schema) (model : Model) (field : Field) :
    schema.unresolvedOf model field =
      match field.type.innermost with
      | none => []
      | some target =>
        if target = "" ∨ schema.declares target then [] else [⟨model.name, field.name, target⟩] := by
  rw [unresolvedOf, FieldType.references_eq]
  cases field.type.innermost with
  | none => rfl
  | some target =>
    by_cases isEmpty : target = ""
    · simp [Option.filter, isEmpty]
    · cases declared : schema.declares target <;> simp [Option.filter, isEmpty, declared]

/-- What is reported of a schema is what is so at its places, in order. -/
theorem unresolved_eq (schema : Schema) :
    schema.unresolved = schema.models.flatMap fun model =>
      model.allFields.flatMap (schema.unresolvedOf model) := by
  simp only [unresolved, Model.fieldReferences, List.filter_flatMap]
  rfl

/-- The new name of a name: models that need a new name have it, all other names stay. -/
def newName (naming : Naming) (schema : Schema) (name : String) : String :=
  if schema.declares name then (naming.newName? name).getD name else name

/-- A name that is not declared stays. -/
theorem newName_of_undeclared {naming : Naming} {schema : Schema} {name : String}
    (undeclared : schema.declares name = false) : schema.newName naming name = name := by
  rw [newName, undeclared]
  rfl

/-- New names stay when names are replaced again. -/
theorem newName_newName (naming : Naming) (schema : Schema) (name : String) :
    schema.newName naming (schema.newName naming name) = schema.newName naming name := by
  cases declared : schema.declares name with
  | false => rw [newName_of_undeclared declared, newName_of_undeclared declared]
  | true =>
    cases renamed : naming.newName? name with
    | none =>
      have stays : schema.newName naming name = name := by
        rw [newName, if_pos declared, renamed, Option.getD_none]
      rw [stays, stays]
    | some new =>
      have given : schema.newName naming name = new := by
        rw [newName, if_pos declared, renamed, Option.getD_some]
      rw [given, newName, Naming.newName?_new renamed, Option.getD_none, ite_self]

/-- The map of new names renames each name as it should be. -/
theorem apply_ofModels {naming : Naming} {schema : Schema} {newNames : Renaming}
    (formed : Renaming.ofModels naming schema.models = .ok newNames) :
    newNames.apply = schema.newName naming := by
  funext name
  -- the map knows the names of models only, and so does `newName`
  rw [Renaming.apply, Renaming.get?_ofModels formed, newName, declares, names]
  split <;> rfl

theorem declares_rename {schema : Schema} {name : String} (declared : schema.declares name = true)
    (new : String → String) : (schema.rename new).declares (new name) = true := by
  rw [declares, List.contains_iff_mem] at declared ⊢
  have renamed := List.mem_map_of_mem (f := new) declared
  simpa [rename, names, Model.rename] using renamed

section

variable (naming : Naming) (schema : Schema)

/-- A reference of a renamed field points at no model only if the one before it did not, and then its
target is the same. -/
theorem unresolvedOf_rename (model : Model) (field : Field) :
    (schema.rename (schema.newName naming)).unresolvedOf (model.rename (schema.newName naming))
        (field.rename (schema.newName naming)) =
      ((schema.unresolvedOf model field).map (·.rename (schema.newName naming))).filter
        fun r => !(schema.rename (schema.newName naming)).declares r.target := by
  rw [unresolvedOf_eq, unresolvedOf_eq, Field.rename, FieldType.innermost_rename]
  cases field.type.innermost with
  | none => rfl
  | some target =>
    simp only [Option.map_some]
    cases declared : schema.declares target with
    | true =>
      -- the model of the target was renamed with it
      have stillDeclared := declares_rename declared (schema.newName naming)
      rw [if_pos (.inr stillDeclared), if_pos (.inr rfl)]
      rfl
    | false =>
      rw [newName_of_undeclared declared]
      by_cases isEmpty : target = ""
      · rw [if_pos (.inl isEmpty), if_pos (.inl isEmpty)]
        rfl
      · have same : Reference.rename (schema.newName naming) ⟨model.name, field.name, target⟩ =
            ⟨(model.rename (schema.newName naming)).name, field.name, target⟩ := by
          rw [Reference.rename, newName_of_undeclared declared]
          rfl
        cases declaredNow : (schema.rename (schema.newName naming)).declares target <;>
          simp [isEmpty, declaredNow, same]

/-- No reference comes to point at no model: place by place, those that point at none were renamed
and pointed at none before. -/
theorem unresolvedAt_rename (i j : Nat) :
    (schema.rename (schema.newName naming)).unresolvedAt i j =
      ((schema.unresolvedAt i j).map (·.rename (schema.newName naming))).filter
        fun r => !(schema.rename (schema.newName naming)).declares r.target := by
  have models : (schema.rename (schema.newName naming)).models[i]? =
      schema.models[i]?.map (·.rename (schema.newName naming)) := List.getElem?_map
  rw [unresolvedAt, unresolvedAt, models]
  cases schema.models[i]? with
  | none => rfl
  | some model =>
    simp only [Option.map_some, Model.allFields_rename, List.getElem?_map]
    cases model.allFields[j]? with
    | none => rfl
    | some field => exact unresolvedOf_rename naming schema model field

/-- The references that are reported are the renamed ones of those that were, in their order, without
those that now point at a model. -/
theorem unresolved_rename :
    (schema.rename (schema.newName naming)).unresolved =
      (schema.unresolved.map (·.rename (schema.newName naming))).filter
        fun r => !(schema.rename (schema.newName naming)).declares r.target := by
  have models : (schema.rename (schema.newName naming)).models =
      schema.models.map (·.rename (schema.newName naming)) := rfl
  rw [unresolved_eq, unresolved_eq, models, List.flatMap_map, List.map_flatMap, List.filter_flatMap]
  congr 1
  funext model
  rw [Model.allFields_rename, List.flatMap_map, List.map_flatMap, List.filter_flatMap]
  congr 1
  funext field
  exact unresolvedOf_rename naming schema model field

end

/-! ## The pass over a schema -/

theorem newNames_eq {naming : Setting Naming} {conventions : Naming} (schema : Schema)
    (given : naming.namer.conventions = .ok conventions) :
    schema.newNames naming = Renaming.ofModels conventions schema.models := by
  rw [newNames]
  split
  next none_ =>
    rw [none_]
    rfl
  next =>
    rw [given]
    rfl

/-- Renaming gives every model of a schema the names it should have and keeps all else, model by
model. Reported references are those that were reported before, at their places, and no name that is
replaced stands anywhere in the result. It can be done whenever the conventions are texts. -/
theorem normalize_renames (naming : Naming) (schema : Schema) :
    (∀ ending replacement, naming.ending = .typed ending → naming.replacement = .typed replacement →
      ∃ result, schema.normalize (.typed naming) = .ok result) ∧
    ∀ result, schema.normalize (.typed naming) = .ok result →
      result = schema.rename (schema.newName naming) ∧
      (∀ i j, result.unresolvedAt i j =
        ((schema.unresolvedAt i j).map (·.rename (schema.newName naming))).filter
          fun r => !result.declares r.target) ∧
      result.unresolved =
        (schema.unresolved.map (·.rename (schema.newName naming))).filter
          (fun r => !result.declares r.target) ∧
      ∀ name, schema.newName naming name ≠ name → ∀ model ∈ result.models, ¬ model.Mentions name := by
  have formed : schema.newNames (.typed naming) = Renaming.ofModels naming schema.models := by
    rw [newNames]
    split
    next none_ =>
      rw [none_]
      rfl
    next => rfl
  constructor
  · intro ending replacement isEnding isReplacement
    rw [normalize, formed, Outcome.exists_bind]
    obtain ⟨newNames, given⟩ := Renaming.exists_ofModels.mpr fun model (_ : model ∈ schema.models) =>
      ⟨_, Naming.needsNewEnding_of_typed isEnding isReplacement model.name⟩
    exact ⟨newNames, given, _, rfl⟩
  · intro result returns
    rw [normalize, formed] at returns
    obtain ⟨newNames, given, same⟩ := Outcome.bind_eq_ok.mp returns
    cases same
    rw [apply_ofModels given]
    refine ⟨rfl, unresolvedAt_rename naming schema, unresolved_rename naming schema, ?_⟩
    intro name isReplaced model isModel mentions
    obtain ⟨before, _, rfl⟩ := List.mem_map.mp isModel
    obtain ⟨old, rfl⟩ := Model.mentions_rename mentions
    exact isReplaced (newName_newName naming schema old)

end Schema

end SchemaCodegen
